import Faultline.Code.Module

namespace Faultline

/-- Whether two lists have one length and agree element by element. -/
def listsAgree {α : Type} (agree : α → α → Bool) : List α → List α → Bool
  | [], [] => true
  | a :: as, b :: bs => agree a b && listsAgree agree as bs
  | _, _ => false

/-- Equality of opcodes with literals compared as programs compare them, so that a NaN differs from
itself. -/
def Opcode.equals : Opcode → Opcode → Bool
  | loadFloat64 x, loadFloat64 y => x.eq y
  | a, b => a = b

def Instruction.equals (a b : Instruction) : Bool := a.opcode.equals b.opcode && a.location = b.location

def Method.equals (a b : Method) : Bool :=
  ({ a with body := none } : Method) = { b with body := none } &&
    match a.body, b.body with
    | some code, some other => listsAgree Instruction.equals code.toList other.toList
    | none, none => true
    | _, _ => false

/-- Equality of modules up to the comparison of literals. -/
def Module.equals (a b : Module) : Bool :=
  ({ a with methods := [] } : Module) = { b with methods := [] } &&
    listsAgree Method.equals a.methods b.methods

end Faultline
