import Faultline.Code.OpcodeText
import Faultline.Machine.Frame
import Faultline.Machine.Memory
import Faultline.Machine.Operator

namespace Faultline

namespace Frame

def unary (frame : Frame) (operation : Value → Except RuntimeError Value) : Except RuntimeError Frame := do
  let (a, frame) ← frame.pop
  return frame.push (← operation a)

/-- Applies an operation to the two topmost values, the upper one as its second operand. -/
def binary (frame : Frame) (operation : Value → Value → Except RuntimeError Value) :
    Except RuntimeError Frame := do
  let (b, frame) ← frame.pop
  let (a, frame) ← frame.pop
  return frame.push (← operation a b)

/-- Pops a condition and goes to the target if it is as wanted. -/
def branch (frame : Frame) (wanted : Bool) (target : Nat) : Except RuntimeError Frame := do
  let (condition, frame) ← frame.pop
  return if condition.isTruthy = wanted then { frame with pointer := target } else frame

def boxTop (type : ValueType) (value : Value) : Except RuntimeError Value :=
  if value.isAssignable type then .ok value.box
  else .error (.typeMismatch "box" s!"{value.describe} is not {type.text}")

/-- Executes an instruction that neither enters nor leaves a call nor reaches the hook, and answers what it
does to the memory. -/
def execute (program : Program) (memory : Memory) (opcode : Opcode) (frame : Frame) :
    Except RuntimeError (Frame × Memory.Effect) :=
  match opcode with
  | .nop => return (frame, .none)
  | .loadNull => return (frame.push .null, .none)
  | .loadInt32 n => return (frame.push (.int32 n), .none)
  | .loadInt64 n => return (frame.push (.int64 n), .none)
  | .loadFloat64 x => return (frame.push (.float64 x), .none)
  | .loadBool b => return (frame.push (.bool b), .none)
  | .loadChar c => return (frame.push (.char c), .none)
  | .loadString s => return (frame.push (.string s), .none)
  | .loadLocal slot => return (frame.push (← frame.getSlot .local slot), .none)
  | .storeLocal slot => do
    let (value, frame) ← frame.pop
    return (← frame.setSlot .local slot value, .none)
  | .loadArg slot => return (frame.push (← frame.getSlot .argument slot), .none)
  | .storeArg slot => do
    let (value, frame) ← frame.pop
    return (← frame.setSlot .argument slot value, .none)
  | .loadField field => return (← frame.unary (memory.heap.loadField · field), .none)
  | .storeField field => do
    let (value, frame) ← frame.pop
    let (target, frame) ← frame.pop
    return (frame, .setField (← memory.heap.fieldOwner target field) field.name value)
  | .loadStaticField field => return (frame.push (← memory.loadStatic program field), .none)
  | .storeStaticField field => do
    let (value, frame) ← frame.pop
    let _ ← program.field field
    return (frame, .setStatic field value)
  | .dup => do
    let (value, frame) ← frame.pop
    return ((frame.push value).push value, .none)
  | .pop => return ((← frame.pop).2, .none)
  | .add => return (← frame.binary Value.add, .none)
  | .sub => return (← frame.binary Value.sub, .none)
  | .mul => return (← frame.binary Value.mul, .none)
  | .div => return (← frame.binary Value.div, .none)
  | .rem => return (← frame.binary Value.rem, .none)
  | .compareEqual => return (← frame.binary fun a b => return .bool (a.isEqual b), .none)
  | .compareLess => return (← frame.binary Value.isLess, .none)
  | .compareGreater => return (← frame.binary Value.isGreater, .none)
  | .neg => return (← frame.unary Value.neg, .none)
  | .not => return (← frame.unary fun value => return .bool (!value.isTruthy), .none)
  | .jump target => return ({ frame with pointer := target }, .none)
  | .jumpIfTrue target => return (← frame.branch true target, .none)
  | .jumpIfFalse target => return (← frame.branch false target, .none)
  | .newObject className => do
    let declared ← program.findClass className
    return (frame.push (.object (memory.heap.next className)), .create className declared.initialFields)
  | .box type => return (← frame.unary (boxTop type), .none)
  | .unbox type => return (← frame.unary fun value => (value.unbox type).mapError .value, .none)
  | opcode => .error (.unsupported opcode.debugText)

end Frame

end Faultline
