import Faultline.Proofs.Code.Opcode
import Faultline.Proofs.Machine.Unlimited

namespace Faultline

variable {σ : Type}

namespace State

/-- Executes an instruction that was fetched, with the pointer moved past it. -/
def dispatch (program : Program) (hook : Hook σ) (limits : Limits) (opcode : Opcode) (frame : Frame)
    (callers : List Frame) (memory : Memory) (hookState : σ) : Step σ :=
  match opcode with
  | .return => leaveCall frame callers memory hookState
  | .throw => .halted (.error (raised frame callers memory.heap)) ⟨frame :: callers, memory, hookState⟩
  | .call callee =>
    match callFrames program limits callee frame callers with
    | .error failure => .halted (.error failure) ⟨frame :: callers, memory, hookState⟩
    | .ok frames => .running ⟨frames, memory, hookState⟩
  | .callHook type => observe hook type frame callers memory hookState
  | opcode =>
    match frame.execute program memory opcode with
    | .error failure => .halted (.error failure) ⟨frame :: callers, memory, hookState⟩
    | .ok (frame, effect) => .running ⟨frame :: callers, memory.perform effect, hookState⟩

variable {program : Program} {hook : Hook σ} {limits : Limits} {frame : Frame} {callers : List Frame}
  {memory : Memory} {hookState : σ}

theorem step_of_fetched {instruction : Instruction} (fetched : frame.method.code[frame.pointer]? = some instruction) :
    step program hook limits ⟨frame :: callers, memory, hookState⟩ =
      dispatch program hook limits instruction.opcode { frame with pointer := frame.pointer + 1 } callers
        memory hookState := by
  simp only [step, fetched]
  rfl

theorem step_of_fellOff (past : frame.method.code[frame.pointer]? = none) :
    step program hook limits ⟨frame :: callers, memory, hookState⟩ =
      .halted (.error (.fellOffEnd frame.method.qualifiedName)) ⟨frame :: callers, memory, hookState⟩ := by
  simp only [step, past]

theorem dispatch_of_isLocal {opcode : Opcode} (own : opcode.isLocal) :
    dispatch program hook limits opcode frame callers memory hookState =
      match frame.execute program memory opcode with
      | .error failure => .halted (.error failure) ⟨frame :: callers, memory, hookState⟩
      | .ok (frame, effect) => .running ⟨frame :: callers, memory.perform effect, hookState⟩ := by
  cases opcode <;> first | rfl | cases own

end State

/-- How a run ends at a step, if it does. -/
def Step.result? : Step σ → Option (Except RuntimeError (Option Value))
  | running _ => none
  | halted result _ => some result

theorem Step.halted_of_result? {step : Step σ} {result : Except RuntimeError (Option Value)}
    (ended : step.result? = some result) :
    ∃ last, step = .halted result last := by
  cases step with
  | running => cases ended
  | halted _ last =>
    cases ended
    exact ⟨last, rfl⟩

/-- Whether a step goes on into a state with a property. -/
def Step.goesOn (P : State σ → Prop) [DecidablePred P] : Step σ → Bool
  | running state => P state
  | halted .. => false

theorem Step.exists_of_goesOn {step : Step σ} {P : State σ → Prop} [DecidablePred P] (goes : step.goesOn P = true) :
    ∃ state, step = .running state ∧ P state := by
  cases step with
  | running state => exact ⟨state, rfl, of_decide_eq_true goes⟩
  | halted => cases goes

/-- The state of the hook after a step. -/
def Step.hookState : Step σ → σ
  | running state | halted _ state => state.hookState

namespace State

variable {program : Program} {hook : Hook σ} {limits : Limits} {P : σ → Prop}

/-- Only hook calls change the state of the hook. -/
theorem dispatch_hookState
    (kept : ∀ point value hookState heap, P hookState → P (hook point value hookState heap).2.1)
    (opcode : Opcode) (frame : Frame) (callers : List Frame) (memory : Memory) {hookState : σ}
    (start : P hookState) :
    P (dispatch program hook limits opcode frame callers memory hookState).hookState := by
  cases opcode with
  | «return» =>
    simp only [dispatch, leaveCall]
    split <;> exact start
  | throw => exact start
  | call callee =>
    simp only [dispatch]
    split <;> exact start
  | callHook type =>
    simp only [dispatch, observe]
    split
    · exact start
    · rename_i point value rest _
      have answered := kept point value hookState memory.heap start
      generalize hook point value hookState memory.heap = answer at answered ⊢
      obtain ⟨answer | result, hookState', heap⟩ := answer
      · exact answered
      · simp only
        split <;> exact answered
  | _ =>
    rw [dispatch_of_isLocal rfl]
    split <;> exact start

/-- What hook calls keep of the hook's state, every run keeps. -/
theorem advance_hookState
    (kept : ∀ point value hookState heap, P hookState → P (hook point value hookState heap).2.1) {count : Nat}
    {state : State σ} (start : P state.hookState) : P (advance (step program hook limits) count state).hookState := by
  induction count generalizing state with
  | zero => exact start
  | succ count ih =>
    have stepped : P (step program hook limits state).hookState := by
      obtain ⟨frames, memory, hookState⟩ := state
      cases frames with
      | nil => exact start
      | cons frame callers =>
        cases fetched : frame.method.code[frame.pointer]? with
        | none =>
          rw [step_of_fellOff fetched]
          exact start
        | some instruction =>
          rw [step_of_fetched fetched]
          exact dispatch_hookState kept _ _ _ _ start
    rw [advance]
    generalize step program hook limits state = next at stepped
    cases next with
    | running later => exact ih stepped
    | halted result last => exact stepped

end State

end Faultline
