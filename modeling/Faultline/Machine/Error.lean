import Faultline.Source
import Faultline.Value.Basic

namespace Faultline

/-- The two kinds of numbered variables of a method. -/
inductive SlotKind where
  | local
  | argument
deriving DecidableEq, Repr

def SlotKind.text : SlotKind → String
  | .local => "local"
  | argument => "argument"

/-- Why a program stopped without a result. -/
inductive RuntimeError where
  | thrown (text : String) (trace : List StackFrame)
  | stepLimit (limit : UInt64)
  | stackOverflow (depth : Nat)
  | hook (site : UInt32) (reason : String)
  | hookResultType (site : UInt32) (expected : ValueType) (found : String)
  | unknownMethod (name : String)
  | unknownClass (name : String)
  | unknownField (name : String)
  | duplicateMethod (name : String)
  | noBody (name : String)
  | argumentCount (method : String) (expected found : Nat)
  | invalidSlot (kind : SlotKind) (index : UInt16) (method : String)
  | stackUnderflow (method : String) (index : Nat)
  | fellOffEnd (method : String)
  | typeMismatch (operation found : String)
  | nullReference (field : String)
  | divideByZero
  | unsupported (opcode : String)
  | value (failure : ValueError)
deriving DecidableEq, Repr

namespace RuntimeError

def message : RuntimeError → String
  | thrown text _ => s!"uncaught exception: {text}"
  | stepLimit limit => s!"step limit of {limit} instructions exhausted"
  | stackOverflow depth => s!"call stack overflow at depth {depth}"
  | hook site reason => s!"value hook failed at site {site}: {reason}"
  | hookResultType site expected found =>
    s!"value hook returned {found} at site {site}, expected {expected.text}"
  | unknownMethod name => s!"unknown method {name}"
  | unknownClass name => s!"unknown class {name}"
  | unknownField name => s!"unknown field {name}"
  | duplicateMethod name => s!"method {name} is declared more than once"
  | noBody name => s!"method {name} has no body"
  | argumentCount method expected found => s!"{method} expects {expected} arguments, got {found}"
  | invalidSlot kind index method => s!"invalid {kind.text} slot {index} in {method}"
  | stackUnderflow method index => s!"operand stack underflow at instruction {index} in {method}"
  | fellOffEnd method => s!"control fell off the end of {method}"
  | typeMismatch operation found => s!"type mismatch in {operation}: {found}"
  | nullReference field => s!"null reference accessing {field}"
  | divideByZero => "division by zero"
  | unsupported opcode => s!"unsupported opcode {opcode}"
  | value failure => failure.message

/-- Whether the error says nothing about the program's own behaviour: a budget ran out or the hook
failed. -/
def isInconclusive : RuntimeError → Bool
  | stepLimit _ | stackOverflow _ | hook .. | hookResultType .. => true
  | _ => false

end RuntimeError

end Faultline
