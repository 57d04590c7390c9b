import Faultline.Code.Module

namespace Faultline

/-- The location in force at instruction `index`: that of the last instruction up to it whose location is
present and not hidden. An index past the end stands for the last instruction. -/
def locationAt (code : Array Instruction) (index : Nat) : Option Location :=
  (code.toList.take (index + 1)).reverse.findSome? fun instruction =>
    instruction.location.filter fun location => !location.isHidden

/-- Where a target goes when `count` instructions are inserted behind instruction `index`. -/
def shiftTarget (index count target : Nat) : Nat := if index < target then target + count else target

def Instruction.mapTarget (f : Nat → Nat) (instruction : Instruction) : Instruction :=
  { instruction with opcode := instruction.opcode.mapTarget f }

/-- Inserts instructions behind instruction `index`; every jump keeps addressing the instruction it
addressed before. The inserted jumps are taken as they stand. -/
def insertAfter (code : Array Instruction) (index : Nat) (inserted : Array Instruction) :
    Array Instruction :=
  let shifted := code.map (·.mapTarget (shiftTarget index inserted.size))
  shifted.take (index + 1) ++ inserted ++ shifted.drop (index + 1)

namespace Method

def mapCode (f : Array Instruction → Array Instruction) (method : Method) : Method :=
  { method with body := method.body.map f }

/-- Appends an instruction, giving the method a body if it has none. -/
def emit (method : Method) (instruction : Instruction) : Method :=
  { method with body := some (method.code.push instruction) }

/-- Sends the jump at `index` to `target`; anything but a jump stays as it is. -/
def patchJump (method : Method) (index target : Nat) : Method :=
  method.mapCode (·.modify index (·.mapTarget fun _ => target))

end Method

/-- Replaces the method at position `index`. -/
def Module.modifyMethod (module : Module) (index : Nat) (f : Method → Method) : Module :=
  { module with methods := module.methods.modify index f }

end Faultline
