import Faultline.Proofs.Machine.Budgets
import Faultline.Proofs.Recording.Ownership

namespace Faultline

section Hooks

variable {σ : Type}

variable {program : Program} {hook : Hook σ} {limits : Limits} {frame rest : Frame} {type : ValueType}
  {point : HookPoint} {value answer : Value}

/-- A hook point has the type that the hook call names. -/
theorem Frame.type_of_popHookCall (popped : frame.popHookCall type = .ok ((point, value), rest)) :
    point.type = type := by
  rw [popHookCall_eq] at popped
  split at popped
  · rename_i site endColumn startColumn endLine startLine document shown rest _
    cases made : hookOperands type shown document startLine endLine startColumn endColumn site with
    | error failure =>
      rw [made] at popped
      cases popped
    | ok seen =>
      rw [made] at popped
      cases popped
      simp only [hookOperands, bind, Except.bind] at made
      repeat' split at made
      all_goals cases made
      rfl
  · cases popped

/-- The value that a state is about to show is determined. -/
theorem State.Shows.unique {state : State σ} {point' : HookPoint} {value' : Value} (shows : state.Shows point value)
    (again : state.Shows point' value') : point = point' ∧ value = value' := by
  obtain ⟨frame, callers, instruction, type, rest, calls, fetched, opcode, popped⟩ := shows
  obtain ⟨_, _, _, _, _, calls', fetched', opcode', popped'⟩ := again
  rw [calls] at calls'
  cases calls'
  rw [fetched] at fetched'
  cases fetched'
  rw [opcode] at opcode'
  cases opcode'
  rw [popped] at popped'
  cases popped'
  exact ⟨rfl, rfl⟩

/-- The value that a state is about to show, with where it shows it. -/
def State.shown? (state : State σ) : Option (HookPoint × Value) :=
  match state.frames with
  | [] => none
  | frame :: _ =>
    match frame.method.code[frame.pointer]? with
    | some ⟨.callHook type, _⟩ =>
      match { frame with pointer := frame.pointer + 1 }.popHookCall type with
      | .ok (shown, _) => some shown
      | .error _ => none
    | _ => none

/-- The computed showing is the one the relation describes. -/
theorem State.shown?_eq_some {state : State σ} : state.shown? = some (point, value) ↔ state.Shows point value := by
  constructor
  · intro shown
    obtain ⟨frames, memory, hookState⟩ := state
    cases frames with
    | nil => cases shown
    | cons frame callers =>
      rw [shown?] at shown
      dsimp only at shown
      split at shown
      · rename_i fetched
        split at shown
        · rename_i popped
          cases shown
          exact ⟨frame, callers, _, _, _, rfl, fetched, rfl, popped⟩
        · cases shown
      · cases shown
  · rintro ⟨frame, callers, ⟨opcode, location⟩, type, rest, calls, fetched, rfl, popped⟩
    simp only [shown?, calls, fetched, popped]

/-- A program goes on with the answer of the hook, in a box if it is primitive, as its topmost operand. -/
theorem State.step_of_shows (program : Program) (limits : Limits) {state : State σ}
    (shows : state.Shows point value) {later : σ} {heap : Heap}
    (answers : hook point value state.hookState state.memory.heap = (.ok answer, later, heap))
    (fits : answer.isAssignable point.type) : ∃ (frame : Frame) (callers : List Frame),
      step program hook limits state = .running
        ⟨frame.push answer.box :: callers, ⟨heap, state.memory.statics⟩, later⟩ := by
  obtain ⟨frames, memory, hookState⟩ := state
  obtain ⟨frame, callers, instruction, type, rest, calls, fetched, opcode, popped⟩ := shows
  cases calls
  rw [Frame.type_of_popHookCall popped] at fits
  refine ⟨rest, callers, ?_⟩
  rw [step_of_fetched fetched, opcode]
  simp only [dispatch, observe, popped, answers, fits, if_true]

/-- A step that shows a value leaves what the hook leaves. -/
theorem State.step_after_shows (program : Program) (hook : Hook σ) (limits : Limits) {state : State σ}
    (shows : state.Shows point value) :
    (step program hook limits state).hookState = (hook point value state.hookState state.memory.heap).2.1 ∧
      (step program hook limits state).memory.heap = (hook point value state.hookState state.memory.heap).2.2 := by
  obtain ⟨frames, memory, hookState⟩ := state
  obtain ⟨frame, callers, instruction, type, rest, calls, fetched, opcode, popped⟩ := shows
  cases calls
  rw [step_of_fetched fetched, opcode]
  exact observe_after hook callers memory hookState popped

/-- Any other one leaves the hook as it is. -/
theorem State.step_hooked (hook : Hook σ) (state : State σ) :
    (step program hook limits state).hookState = state.hookState ∨
    ∃ point value, state.Shows point value := by
  obtain ⟨frames, memory, hookState⟩ := state
  cases frames with
  | nil => exact Or.inl rfl
  | cons frame callers =>
    cases fetched : frame.method.code[frame.pointer]? with
    | none =>
      rw [step_of_fellOff fetched]
      exact Or.inl rfl
    | some instruction =>
      rw [step_of_fetched fetched]
      by_cases hooking : ∃ type, instruction.opcode = .callHook type
      · obtain ⟨type, opcode⟩ := hooking
        cases popped : { frame with pointer := frame.pointer + 1 }.popHookCall type with
        | error failure =>
          rw [opcode, dispatch, observe, popped]
          exact Or.inl rfl
        | ok seen => exact Or.inr ⟨_, _, frame, callers, instruction, type, _, rfl, fetched, opcode, popped⟩
      · exact Or.inl (dispatch_hookState_of_unhooked fun type opcode => hooking ⟨type, opcode⟩)

end Hooks

namespace Recorder

variable {recorder : Recorder} {point : HookPoint} {value : Value} {site : UInt32}

theorem hook_of_accepts (accepted : recorder.Accepts point value) (heap : Heap) :
    ∃ test, recorder.current = some test ∧
    recorder.accept point value = .ok test ∧ hook point value recorder heap =
      (.ok (recorder.keep test point value (heap.copy value).1).1,
        (recorder.keep test point value (heap.copy value).1).2, (heap.copy value).2) := by
  obtain ⟨test, running, taken⟩ := accept_of_accepts accepted
  refine ⟨test, running, taken, ?_⟩
  simp only [hook, observe, taken, Except.mapError]

/-- In a replay, the answer is what is substituted at the site, if anything is. -/
theorem hook_of_replay (accepted : recorder.Accepts point value) (replaying : recorder.mode = .replay) (heap : Heap) :
    (hook point value recorder heap).1 = .ok ((recorder.overrides.get? point.site).getD value) ∧
      (hook point value recorder heap).2.2 = (heap.copy value).2 := by
  obtain ⟨test, _, _, called⟩ := hook_of_accepts accepted heap
  rw [called]
  refine ⟨?_, rfl⟩
  simp only [keep, replaying]

theorem hook_of_not_accepts (unfit : ¬ recorder.Accepts point value) (heap : Heap) :
    ∃ failure, hook point value recorder heap = (.error failure, recorder, heap) := by
  simp only [hook, observe]
  cases accepted : recorder.accept point value with
  | error failure => exact ⟨_, rfl⟩
  | ok test => exact absurd (accepts_of_accept accepted) unfit

/-- A call that is accepted adds an observation. -/
theorem hook_ne_of_accepts (accepted : recorder.Accepts point value) (heap : Heap) :
    (hook point value recorder heap).2.1 ≠ recorder := by
  obtain ⟨test, _, _, called⟩ := hook_of_accepts accepted heap
  intro same
  have written := written_keep recorder test point value (heap.copy value).1
  rw [called] at same
  dsimp only at same
  rw [same] at written
  have longer := congrArg (·.latest.length) written
  simp [Profile.record] at longer

/-- What is substituted at another site does not matter to a hook call. -/
theorem hook_uninstall (away : point.site ≠ site) (heap : Heap) :
    Hook.Agrees (·.uninstall site) hook hook recorder heap point value := by
  have same : (recorder.uninstall site).accept point value = recorder.accept point value := rfl
  have override : (recorder.uninstall site).overrides.get? point.site = recorder.overrides.get? point.site := by
    rw [uninstall, Table.get?_erase, if_neg away]
  simp only [Hook.Agrees, hook, observe, same]
  cases recorder.accept point value with
  | error failure => rfl
  | ok test =>
    have mode : (recorder.uninstall site).mode = recorder.mode := rfl
    simp only [keep, mode, override]
    cases recorder.mode <;> rfl

/-- Nor does anything that is substituted to a call that is refused. -/
theorem hook_uninstall_of_not_accepts (unfit : ¬ recorder.Accepts point value) (heap : Heap) :
    Hook.Agrees (·.uninstall site) hook hook recorder heap point value := by
  have same : (recorder.uninstall site).accept point value = recorder.accept point value := rfl
  simp only [Hook.Agrees, hook, observe, same]
  cases accepted : recorder.accept point value with
  | error failure => rfl
  | ok test => exact absurd (accepts_of_accept accepted) unfit

end Recorder

end Faultline
