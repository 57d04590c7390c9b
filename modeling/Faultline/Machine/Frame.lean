import Faultline.Code.Edit
import Faultline.Machine.Error

namespace Faultline

/-- A call in progress. The operand stack has its top first. -/
structure Frame where
  method : Method
  pointer : Nat
  args : Array Value
  locals : Array Value
  stack : List Value
deriving DecidableEq

namespace Frame

/-- The start of a call, with every local at the default of its type. -/
def enter (method : Method) (args : List Value) : Frame :=
  { method, pointer := 0, args := args.toArray, locals := (method.locals.map (·.default)).toArray, stack := [] }

/-- The instruction being executed: the pointer has already moved past it. -/
def current (frame : Frame) : Nat := frame.pointer - 1

def underflow (frame : Frame) : RuntimeError :=
  .stackUnderflow frame.method.qualifiedName frame.current

def push (frame : Frame) (value : Value) : Frame := { frame with stack := value :: frame.stack }

def pop (frame : Frame) : Except RuntimeError (Value × Frame) :=
  match frame.stack with
  | value :: rest => .ok (value, { frame with stack := rest })
  | [] => .error frame.underflow

/-- The top `n` values in the order in which they were pushed. -/
def popMany (frame : Frame) (n : Nat) : Except RuntimeError (List Value × Frame) :=
  if frame.stack.length < n then .error frame.underflow
  else .ok ((frame.stack.take n).reverse, { frame with stack := frame.stack.drop n })

def invalidSlot (frame : Frame) (kind : SlotKind) (index : UInt16) : RuntimeError :=
  .invalidSlot kind index frame.method.qualifiedName

def slots (frame : Frame) : SlotKind → Array Value
  | .local => frame.locals
  | .argument => frame.args

def withSlots (frame : Frame) (values : Array Value) : SlotKind → Frame
  | .local => { frame with locals := values }
  | .argument => { frame with args := values }

def getSlot (frame : Frame) (kind : SlotKind) (index : UInt16) : Except RuntimeError Value :=
  match (frame.slots kind)[index.toNat]? with
  | some value => .ok value
  | none => .error (frame.invalidSlot kind index)

def setSlot (frame : Frame) (kind : SlotKind) (index : UInt16) (value : Value) : Except RuntimeError Frame :=
  if inside : index.toNat < (frame.slots kind).size then
    .ok (frame.withSlots ((frame.slots kind).set index.toNat value) kind)
  else .error (frame.invalidSlot kind index)

/-- Where the call stands, for a trace. -/
def describe (frame : Frame) : StackFrame :=
  ⟨frame.method.qualifiedName, frame.current, locationAt frame.method.code frame.current⟩

end Frame

end Faultline
