import Faultline.Code.Module

namespace Faultline

/-- Why a method has no consistent stack depths. -/
inductive StackError where
  | underflow (method : String) (index : Nat)
  | inconsistent (method : String) (index first second : Nat)
  | badTarget (method : String) (index target : Nat)
  | unknownCallee (method : String) (index : Nat) (callee : String)
  | fallOff (method : String)
deriving DecidableEq, Repr

def StackError.message : StackError → String
  | underflow method index => s!"stack underflow at instruction {index} in {method}"
  | inconsistent method index first second =>
    s!"inconsistent stack depth at instruction {index} in {method}: {first} vs {second}"
  | badTarget method index target =>
    s!"branch target {target} out of range at instruction {index} in {method}"
  | unknownCallee method index callee =>
    s!"cannot resolve callee {callee} at instruction {index} in {method}"
  | fallOff method => s!"control falls off the end of {method}"

/-- The values a call of a method pops and pushes, where the method is known. -/
abbrev Signatures := Member → Option (Nat × Nat)

namespace Method

/-- The values instruction `index` pops and pushes. -/
def effectAt (method : Method) (signatures : Signatures) (index : Nat) (opcode : Opcode) :
    Except StackError (Nat × Nat) :=
  match opcode with
  | .call callee =>
    match signatures callee with
    | some effect => .ok effect
    | none => .error (.unknownCallee method.qualifiedName index callee.text)
  | .return => .ok (if method.returns.isSome then 1 else 0, 0)
  | other => .ok (other.effect?.getD (0, 0))

/-- The instructions that control may reach next, each with the stack depth before it. -/
def edges (method : Method) (signatures : Signatures) (index depth : Nat) (opcode : Opcode) :
    Except StackError (List (Nat × Nat)) := do
  let (pops, pushes) ← method.effectAt signatures index opcode
  if depth < pops then throw (.underflow method.qualifiedName index)
  let after := depth - pops + pushes
  let onward := if opcode.isUnconditional then [] else [(index + 1, after)]
  match opcode.target? with
  | none => return onward
  | some target =>
    if method.code.size ≤ target then throw (.badTarget method.qualifiedName index target)
    return onward ++ [(target, after)]

/-- Giving an instruction its first depth leaves one fewer without a depth: the measure of `followEdges`. -/
theorem countP_isNone_set_lt {depths : Array (Option Nat)} {index : Nat}
    (inside : index < depths.size) (unseen : depths[index] = none) (depth : Nat) :
    (depths.set index (some depth)).countP Option.isNone < depths.countP Option.isNone := by
  have present : 0 < depths.countP Option.isNone :=
    Array.countP_pos_iff.2 ⟨none, unseen ▸ Array.getElem_mem inside, rfl⟩
  have fewer : (depths.set index (some depth)).countP Option.isNone = depths.countP Option.isNone - 1 := by
    rw [Array.countP_set, unseen]
    rfl
  omega

/-- Follows the pending edges, the first one first, noting the depth before each instruction reached. -/
def followEdges (method : Method) (signatures : Signatures) (depths : Array (Option Nat))
    (pending : List (Nat × Nat)) : Except StackError (Array (Option Nat)) :=
  match pending with
  | [] => .ok depths
  | (index, depth) :: rest =>
    if inside : index < depths.size then
      match seen : depths[index] with
      | some first =>
        if first = depth then method.followEdges signatures depths rest
        else .error (.inconsistent method.qualifiedName index first depth)
      | none =>
        match method.edges signatures index depth (method.code[index]?.getD default).opcode with
        | .error failure => .error failure
        | .ok next =>
          have := countP_isNone_set_lt inside seen depth
          method.followEdges signatures (depths.set index (some depth)) (next ++ rest)
    else .error (.fallOff method.qualifiedName)
termination_by (depths.countP Option.isNone, pending.length)

/-- The stack depth before each instruction, none where control never arrives. -/
def stackDepths (method : Method) (signatures : Signatures) :
    Except StackError (Array (Option Nat)) :=
  if method.code.isEmpty then .ok #[]
  else method.followEdges signatures (.replicate method.code.size none) [(0, 0)]

end Method

end Faultline
