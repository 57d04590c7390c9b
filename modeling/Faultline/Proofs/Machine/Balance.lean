import Faultline.Proofs.Machine.Instructions
import Faultline.Proofs.Machine.Linking

namespace Faultline

/-- Whether the error says that a stack was too short for an instruction, or that a call was made of an
unknown method or with the wrong number of arguments. -/
def RuntimeError.isImbalance : RuntimeError → Bool
  | stackUnderflow .. | unknownMethod _ | argumentCount .. => true
  | _ => false

/-- A computation that fails only for other reasons than an imbalance, and whose result is as stated. -/
inductive Balanced {α : Type} (post : α → Prop) : Except RuntimeError α → Prop
  | ok {result} (holds : post result) : Balanced post (.ok result)
  | error {failure} (other : failure.isImbalance = false) : Balanced post (.error failure)

namespace Balanced

variable {α β : Type} {post : α → Prop} {first : Except RuntimeError α}

theorem bind {later : β → Prop} {next : α → Except RuntimeError β} (start : Balanced post first)
    (onward : ∀ a, post a → Balanced later (next a)) : Balanced later (first >>= next) := by
  cases start with
  | ok holds => exact onward _ holds
  | error other => exact .error other

theorem mono {post' : α → Prop} (h : Balanced post first) (more : ∀ a, post a → post' a) : Balanced post' first := by
  cases h with
  | ok holds => exact .ok (more _ holds)
  | error other => exact .error other

end Balanced

/-- A computation that never fails for an imbalance. -/
abbrev Harmless {α : Type} (result : Except RuntimeError α) : Prop := Balanced (fun _ => True) result

/-- A computation of which no failure is an imbalance. -/
theorem Yields.balanced {α : Type} {failing : RuntimeError → Prop} {post : α → Prop} {result : Except RuntimeError α}
    (h : Yields failing post result) (other : ∀ failure, failing failure → failure.isImbalance = false) :
    Balanced post result := by
  cases h with
  | ok holds => exact .ok holds
  | error known => exact .error (other _ known)

namespace Frame

variable {frame : Frame} {pops pushes : Nat}

/-- An instruction that finds the values it needs does not fail for an imbalance. -/
theorem Refuses.isImbalance_eq_false {needed : Nat} (enough : needed ≤ frame.stack.length) (failure : RuntimeError)
    (refuses : frame.Refuses needed failure) : failure.isImbalance = false := by
  cases refuses with
  | operand known => cases failure <;> first | rfl | cases known
  | underflow method index short => omega

theorem balanced_popMany {count : Nat} (enough : count ≤ frame.stack.length) :
    Balanced (fun popped => popped.1.length = count ∧ Shifted count 0 frame popped.2) (frame.popMany count) :=
  (frame.yields_popMany count).balanced (Refuses.isImbalance_eq_false enough)

end Frame

/-- A call entered with all its arguments puts the frame of a method with a body on top of the others. -/
theorem balanced_enterCall {limits : Limits} {method : Method} {args : List Value} {frames : List Frame}
    (complete : args.length = method.argCount) :
    Balanced (fun entered => method.body.isSome ∧ entered = Frame.enter method args :: frames)
      (enterCall limits method args frames) := by
  refine (yields_enterCall limits method args frames).balanced fun failure refuses => ?_
  cases refuses with
  | argumentCount differs => exact absurd complete differs
  | noBody => rfl
  | stackOverflow depth => rfl

/-- The analysis knows a method by the same signature that the program calls it with. -/
theorem Program.signatureIn?_eq (program : Program) (name : Member) :
    signatureIn? program.modules name = (program.method name).toOption.map Method.callEffect := by
  have first :
      signatureIn? program.modules name = (program.modules.findSome? (·.method? name)).map Method.callEffect := by
    rw [List.map_findSome?]
    rfl
  rw [first, Program.method_eq]
  cases program.modules.findSome? (·.method? name) <;> rfl

end Faultline
