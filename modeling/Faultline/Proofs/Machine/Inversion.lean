import Faultline.Proofs.Machine.Dispatch
import Faultline.Proofs.Machine.Instructions

namespace Faultline

variable {σ : Type} {program : Program} {hook : Hook σ} {limits : Limits} {opcode : Opcode} {pops pushes : Nat}
  {frame : Frame} {callers : List Frame} {memory : Memory} {hookState : σ}

/-- All that an instruction with a known effect on the stack can make of an invocation. The innermost call
goes on behind it or at its target, with as many values popped and pushed as the effect says, or the
instruction fails for what it takes or for what the hook says. -/
inductive Step.Within (opcode : Opcode) (pops pushes : Nat) (frame : Frame) (callers : List Frame) : Step σ → Prop
  | onward {next : Frame} (flows : opcode.isUnconditional = false) (shifted : Frame.Shifted pops pushes frame next)
      (memory : Memory) (hookState : σ) :
      Within opcode pops pushes frame callers (.running ⟨next :: callers, memory, hookState⟩)
  | jumps {target : Nat} {next : Frame} (aims : opcode.target? = some target)
      (shifted : Frame.Shifted pops pushes { frame with pointer := target } next) (memory : Memory) (hookState : σ) :
      Within opcode pops pushes frame callers (.running ⟨next :: callers, memory, hookState⟩)
  | refuses {failure : RuntimeError} (refuses : frame.Refuses pops failure) (last : Frame) (memory : Memory)
      (hookState : σ) :
      Within opcode pops pushes frame callers (.halted (.error failure) ⟨last :: callers, memory, hookState⟩)
  | unanswered {failure : RuntimeError} (ofHook : failure.isOfHook = true) (last : Frame) (memory : Memory)
      (hookState : σ) :
      Within opcode pops pushes frame callers (.halted (.error failure) ⟨last :: callers, memory, hookState⟩)

namespace State

/-- A hook call takes seven values and leaves one, in the same frame. -/
theorem observe_within (type : ValueType) :
    (observe hook type frame callers memory hookState).Within (.callHook type) 7 1 frame callers := by
  have popped := frame.yields_popHookCall type
  unfold observe
  generalize frame.popHookCall type = result at popped
  cases popped with
  | error refuses => exact .refuses refuses _ _ _
  | @ok seen shifted =>
    obtain ⟨⟨point, value⟩, rest⟩ := seen
    obtain ⟨heap, statics⟩ := memory
    dsimp only
    generalize hook point value hookState heap = answer
    obtain ⟨answer | shown, hookState, heap⟩ := answer
    · exact .unanswered rfl _ _ _
    · dsimp only
      split
      · exact .onward rfl (shifted.push shown.box) _ _
      · exact .unanswered rfl _ _ _

/-- A conditional branch takes one value, and goes on at its target or at the next instruction. -/
theorem branch_within {wanted : Bool} {target : Nat} (aims : opcode.target? = some target)
    (flows : opcode.isUnconditional = false) :
    Step.Within opcode 1 0 frame callers
      (match frame.branch wanted target >>= fun frame => .ok (frame, Memory.Effect.none) with
        | .error failure => .halted (.error failure) ⟨frame :: callers, memory, hookState⟩
        | .ok (frame, effect) => .running ⟨frame :: callers, memory.perform effect, hookState⟩) := by
  have branched := frame.yields_branch wanted target
  generalize frame.branch wanted target = result at branched
  cases branched with
  | error refuses => exact .refuses refuses _ _ _
  | ok done =>
    obtain ⟨rest, shifted, rfl | rfl⟩ := done
    · exact .onward flows shifted _ _
    · have there : Frame.Shifted 1 0 { frame with pointer := target } { rest with pointer := target } :=
        ⟨shifted.method, rfl, shifted.height⟩
      exact .jumps aims there _ _

/-- An instruction that neither calls nor returns nor raises stays in its call. -/
theorem dispatch_within (effect : opcode.effect? = some (pops, pushes)) (silent : opcode ≠ .throw) :
    (dispatch program hook limits opcode frame callers memory hookState).Within opcode pops pushes frame callers := by
  have straight (own : opcode.isLocal) (unjumping : opcode.target? = none) (flows : opcode.isUnconditional = false) :
      (dispatch program hook limits opcode frame callers memory hookState).Within opcode pops pushes
      frame callers := by
    have executed := frame.yields_execute program memory effect unjumping
    rw [dispatch_of_isLocal own]
    generalize frame.execute program memory opcode = result at executed
    cases executed with
    | error refuses => exact .refuses refuses _ _ _
    | ok shifted => exact .onward flows shifted _ _
  cases opcode with
  | «return» | call _ => cases effect
  | throw => exact absurd rfl silent
  | callHook type =>
    cases effect
    exact observe_within type
  | jump target =>
    cases effect
    exact .jumps rfl (.refl _) _ _
  | jumpIfTrue target | jumpIfFalse target =>
    cases effect
    exact branch_within rfl rfl
  | _ => exact straight rfl rfl rfl

/-- A return finds no result, or the invocation ends with it, or it is pushed onto the stack of the caller. -/
theorem leaveCall_cases (frame : Frame) (callers : List Frame) (memory : Memory) (hookState : σ) :
    (∃ failure, frame.method.returns.isSome ∧ frame.Refuses 1 failure ∧
      leaveCall frame callers memory hookState = .halted (.error failure) ⟨frame :: callers, memory, hookState⟩) ∨
    ∃ result : Option Value, result.isSome = frame.method.returns.isSome ∧ leaveCall frame callers memory hookState =
      match callers with
      | [] => .halted (.ok result) ⟨[], memory, hookState⟩
      | caller :: rest => .running ⟨result.elim caller caller.push :: rest, memory, hookState⟩ := by
  unfold leaveCall
  cases valued : frame.method.returns.isSome with
  | false =>
    refine Or.inr ⟨none, rfl, ?_⟩
    cases callers <;> rfl
  | true =>
    have popped := frame.yields_pop Nat.one_pos
    generalize frame.pop = result at popped
    cases popped with
    | error refuses => exact Or.inl ⟨_, rfl, refuses, rfl⟩
    | @ok taken _ =>
      refine Or.inr ⟨some taken.1, rfl, ?_⟩
      cases callers <;> rfl

/-- An exception is raised with the calls in progress, unless there is no value to raise. -/
theorem raised_cases (frame : Frame) (callers : List Frame) (heap : Heap) :
    frame.Refuses 1 (raised frame callers heap) ∨
      ∃ text, raised frame callers heap = .thrown text ((frame :: callers).map Frame.describe) := by
  have popped := frame.yields_pop Nat.one_pos
  unfold raised
  generalize frame.pop = result at popped
  cases popped with
  | error refuses => exact Or.inl refuses
  | ok _ => exact Or.inr ⟨_, rfl⟩

end State

end Faultline
