import Faultline.Value.Basic

namespace Faultline

/-- A field or a method, named within its class. -/
structure Member where
  owner : String
  name : String
deriving DecidableEq, Inhabited

def Member.text (member : Member) : String := s!"{member.owner}::{member.name}"

instance : Ord Member := ⟨compareLex (compareOn Member.owner) (compareOn Member.name)⟩

instance : Std.TransOrd Member :=
  inferInstanceAs (Std.TransCmp (compareLex (compareOn Member.owner) (compareOn Member.name)))

/-- An operation of the stack machine with its operand. Jump targets are instruction indices. -/
inductive Opcode where
  | nop
  | loadNull
  | loadInt32 (n : Int32)
  | loadInt64 (n : Int64)
  | loadFloat64 (x : Double)
  | loadBool (b : Bool)
  | loadChar (c : Char)
  | loadString (s : String)
  | loadLocal (slot : UInt16)
  | loadLocalAddress (slot : UInt16)
  | storeLocal (slot : UInt16)
  | loadArg (slot : UInt16)
  | loadArgAddress (slot : UInt16)
  | storeArg (slot : UInt16)
  | loadField (field : Member)
  | loadFieldAddress (field : Member)
  | storeField (field : Member)
  | loadStaticField (field : Member)
  | loadStaticFieldAddress (field : Member)
  | storeStaticField (field : Member)
  | newArray (element : ValueType)
  | arrayLength
  | loadElement (element : ValueType)
  | loadElementAddress (element : ValueType)
  | storeElement (element : ValueType)
  | loadIndirect (type : ValueType)
  | storeIndirect (type : ValueType)
  | loadObject (type : ValueType)
  | loadFunction (method : Member)
  | loadVirtualFunction (method : Member)
  | dup
  | pop
  | add
  | sub
  | mul
  | div
  | rem
  | neg
  | not
  | compareEqual
  | compareLess
  | compareGreater
  | jump (target : Nat)
  | jumpIfTrue (target : Nat)
  | jumpIfFalse (target : Nat)
  | return
  | throw
  | call (method : Member)
  | newObject (className : String)
  | box (type : ValueType)
  | unbox (type : ValueType)
  /-- Pops a value, its document, the four ends of its span and its site's number, shows them to the
  hook and pushes the value that the hook answers. -/
  | callHook (type : ValueType)
deriving DecidableEq, Inhabited

namespace Opcode

/-- Where a jump goes. -/
def target? : Opcode → Option Nat
  | jump target | jumpIfTrue target | jumpIfFalse target => some target
  | _ => none

/-- The opcode with its jump target, if it has one, replaced. -/
def mapTarget (f : Nat → Nat) : Opcode → Opcode
  | jump target => jump (f target)
  | jumpIfTrue target => jumpIfTrue (f target)
  | jumpIfFalse target => jumpIfFalse (f target)
  | opcode => opcode

/-- Whether the opcode ends a basic block. -/
def isTerminator : Opcode → Bool
  | .return | throw | jump _ | jumpIfTrue _ | jumpIfFalse _ => true
  | _ => false

/-- Whether control never goes on to the next instruction. -/
def isUnconditional : Opcode → Bool
  | .return | throw | jump _ => true
  | _ => false

/-- Whether the opcode pushes a literal. -/
def isConstant : Opcode → Bool
  | loadNull | loadInt32 _ | loadInt64 _ | loadFloat64 _ | loadBool _ | loadChar _ | loadString _ => true
  | _ => false

/-- How many values the opcode pops and then pushes, where no signature is needed to tell. -/
def effect? : Opcode → Option (Nat × Nat)
  | nop | jump _ => some (0, 0)
  | loadNull | loadInt32 _ | loadInt64 _ | loadFloat64 _ | loadBool _ | loadChar _ | loadString _
  | loadLocal _ | loadLocalAddress _ | loadArg _ | loadArgAddress _
  | loadStaticField _ | loadStaticFieldAddress _ | loadFunction _ | newObject _ => some (0, 1)
  | storeLocal _ | storeArg _ | storeStaticField _ | pop | jumpIfTrue _ | jumpIfFalse _ | throw =>
    some (1, 0)
  | loadField _ | loadFieldAddress _ | newArray _ | arrayLength | loadIndirect _ | loadObject _
  | loadVirtualFunction _ | neg | not | box _ | unbox _ => some (1, 1)
  | dup => some (1, 2)
  | storeField _ | storeIndirect _ => some (2, 0)
  | loadElement _ | loadElementAddress _ | add | sub | mul | div | rem
  | compareEqual | compareLess | compareGreater => some (2, 1)
  | storeElement _ => some (3, 0)
  | callHook _ => some (7, 1)
  | call _ | .return => none

end Opcode

end Faultline
