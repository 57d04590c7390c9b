import Faultline.Proofs.Machine.Dispatch
import Faultline.Proofs.Machine.StackSafety

namespace Faultline

/-- Whether the error is neither an exception that was raised nor a limit that was reached. -/
def RuntimeError.isBreakdown : RuntimeError → Bool
  | thrown .. | stepLimit _ | stackOverflow _ => false
  | _ => true

theorem Frame.Refuses.isBreakdown {frame : Frame} {needed : Nat} {failure : RuntimeError}
    (refuses : frame.Refuses needed failure) :
    failure.isBreakdown = true := by
  cases refuses with
  | operand known => cases failure <;> first | rfl | cases known
  | underflow method index short => rfl

theorem RuntimeError.isBreakdown_of_isOfHook {failure : RuntimeError} (ofHook : failure.isOfHook = true) :
    failure.isBreakdown = true := by
  cases failure <;> first | rfl | cases ofHook

theorem Program.eq_unknownMethod {program : Program} {name : Member} {failure : RuntimeError}
    (unknown : program.method name = .error failure) : failure = .unknownMethod name.text := by
  unfold Program.method at unknown
  split at unknown
  · cases unknown
  · cases unknown
    rfl

/-- A call begins if the limits leave room for it; otherwise they say how many calls there are. -/
theorem enterCall_cases (limits : Limits) (method : Method) (args : List Value) (frames : List Frame) :
    (enterCall limits method args frames = .ok (Frame.enter method args :: frames) ∧ frames.length < limits.depth) ∨
      (enterCall limits method args frames = .error (.stackOverflow frames.length) ∧ limits.depth ≤ frames.length) ∨
        ∃ failure, enterCall limits method args frames = .error failure ∧ failure.isBreakdown = true := by
  unfold enterCall
  split
  · exact Or.inr (Or.inr ⟨_, rfl, rfl⟩)
  · split
    · exact Or.inr (Or.inr ⟨_, rfl, rfl⟩)
    · split
      · rename_i full
        exact Or.inr (Or.inl ⟨rfl, full⟩)
      · rename_i room
        exact Or.inl ⟨rfl, Nat.lt_of_not_le room⟩

/-- An invocation that begins has one call in progress, of the method that it names. -/
theorem Program.enter_eq_ok {program : Program} {limits : Limits} {name : Member} {args : List Value}
    {frames : List Frame} (entered : program.enter limits name args = .ok frames) :
    ∃ method, program.method name = .ok method ∧ frames = [Frame.enter method args] ∧ 0 < limits.depth := by
  unfold Program.enter at entered
  cases found : program.method name with
  | error failure =>
    rw [found] at entered
    cases entered
  | ok method =>
    rw [found] at entered
    have entered : enterCall limits method args [] = .ok frames := entered
    rcases enterCall_cases limits method args [] with ⟨begun, room⟩ | ⟨refused, _⟩ | ⟨_, refused, _⟩
    · cases begun.symm.trans entered
      exact ⟨method, rfl, rfl, room⟩
    · cases refused.symm.trans entered
    · cases refused.symm.trans entered

/-- An invocation that does not begin is one for which there is no room or that breaks down. -/
theorem Program.enter_eq_error {program : Program} {limits : Limits} {name : Member} {args : List Value}
    {failure : RuntimeError} (refused : program.enter limits name args = .error failure) :
    failure = .stackOverflow 0 ∨ failure.isBreakdown = true := by
  unfold Program.enter at refused
  cases found : program.method name with
  | error unknown =>
    rw [found] at refused
    cases refused
    exact Or.inr (Program.eq_unknownMethod found ▸ rfl)
  | ok method =>
    rw [found] at refused
    have refused : enterCall limits method args [] = .error failure := refused
    rcases enterCall_cases limits method args [] with ⟨begun, _⟩ | ⟨full, _⟩ | ⟨_, other, broken⟩
    · cases begun.symm.trans refused
    · cases full.symm.trans refused
      exact Or.inl rfl
    · cases other.symm.trans refused
      exact Or.inr broken

section Follows

variable {σ : Type}

/-- The state that a step leaves. -/
def Step.state : Step σ → State σ
  | running state | halted _ state => state

/-- All that a step can make of the calls in progress: the innermost has moved its pointer past an
instruction, if there is one. -/
inductive Step.Follows (program : Program) (limits : Limits) (opcode : Option Opcode) (frame : Frame)
    (callers : List Frame) :
    Step σ → Prop
  | stays {next : Frame} (same : next.method = frame.method) (memory : Memory) (hookState : σ) :
      Follows program limits opcode frame callers (.running ⟨next :: callers, memory, hookState⟩)
  | enters {name : Member} {callee : Method} {args : List Value} {caller : Frame} (call : opcode = some (.call name))
      (found : program.method name = .ok callee) (same : caller.method = frame.method)
      (behind : caller.pointer = frame.pointer)
      (room : callers.length + 1 < limits.depth) (memory : Memory) (hookState : σ) :
      Follows program limits opcode frame callers
      (.running ⟨Frame.enter callee args :: caller :: callers, memory, hookState⟩)
  | leaves {caller resumed : Frame} {rest : List Frame} (waiting : callers = caller :: rest)
      (same : resumed.method = caller.method) (memory : Memory) (hookState : σ) :
      Follows program limits opcode frame callers (.running ⟨resumed :: rest, memory, hookState⟩)
  | returns (result : Option Value) (memory : Memory) (hookState : σ) :
      Follows program limits opcode frame callers (.halted (.ok result) ⟨[], memory, hookState⟩)
  | raises (throw : opcode = some .throw) (text : String) (memory : Memory) (hookState : σ) :
      Follows program limits opcode frame callers
        (.halted (.error (.thrown text ((frame :: callers).map Frame.describe)))
          ⟨frame :: callers, memory, hookState⟩)
  | overflows (full : limits.depth ≤ callers.length + 1) (memory : Memory) (hookState : σ) :
      Follows program limits opcode frame callers
        (.halted (.error (.stackOverflow (callers.length + 1))) ⟨frame :: callers, memory, hookState⟩)
  | fails {failure : RuntimeError} (broken : failure.isBreakdown = true) (last : Frame) (memory : Memory)
      (hookState : σ) :
      Follows program limits opcode frame callers (.halted (.error failure) ⟨last :: callers, memory, hookState⟩)

/-- A step that stays within one instruction and is no call keeps the callers as they are. -/
theorem Step.Within.follows {program : Program} {limits : Limits} {opcode : Opcode} {pops pushes : Nat}
    {frame : Frame} {callers : List Frame} {step : Step σ}
    (within : step.Within opcode pops pushes frame callers) :
    step.Follows program limits (some opcode) frame callers := by
  cases within with
  | onward _ shifted => exact .stays shifted.method _ _
  | @jumps _ next _ shifted =>
    have same : next.method = frame.method := shifted.method
    exact .stays same _ _
  | refuses refuses => exact .fails refuses.isBreakdown _ _ _
  | unanswered ofHook => exact .fails (RuntimeError.isBreakdown_of_isOfHook ofHook) _ _ _

namespace State

variable {program : Program} {hook : Hook σ} {limits : Limits} {frame : Frame} {callers : List Frame}
  {memory : Memory} {hookState : σ} {opcode : Opcode}

/-- Leaving a call goes back to the frame below it, or ends the run when there is none. -/
theorem leaveCall_follows : (leaveCall frame callers memory hookState).Follows program limits
    (some opcode) frame callers := by
  obtain ⟨failure, -, refuses, left⟩ | ⟨result, -, left⟩ := leaveCall_cases frame callers memory hookState
  · rw [left]
    exact .fails refuses.isBreakdown _ _ _
  · rw [left]
    cases callers with
    | nil => exact .returns result _ _
    | cons caller rest =>
      have same : (result.elim caller caller.push).method = caller.method := by cases result <;> rfl
      exact .leaves rfl same _ _

theorem raised_follows :
    Step.Follows program limits (some .throw) frame callers
      (.halted (.error (raised frame callers memory.heap)) ⟨frame :: callers, memory, hookState⟩) := by
  obtain refuses | ⟨text, raised⟩ := raised_cases frame callers memory.heap
  · exact .fails refuses.isBreakdown _ _ _
  · rw [raised]
    exact .raises rfl _ _ _

/-- A call enters the method its name resolves to, on top of the frame that called. -/
theorem call_follows (name : Member) :
    Step.Follows program limits (some (.call name)) frame callers
      (dispatch program hook limits (.call name) frame callers memory hookState) := by
  simp only [dispatch, callFrames]
  cases found : program.method name with
  | error failure =>
    obtain rfl := Program.eq_unknownMethod found
    exact .fails rfl _ _ _
  | ok callee =>
    have popped := frame.yields_popMany callee.argCount
    simp only [bind, Except.bind]
    generalize frame.popMany callee.argCount = result at popped
    cases popped with
    | error refuses => exact .fails refuses.isBreakdown _ _ _
    | @ok taken shifted =>
      obtain ⟨args, caller⟩ := taken
      rcases enterCall_cases limits callee args (caller :: callers) with
        ⟨entered, room⟩ | ⟨refused, full⟩ | ⟨failure, refused, broken⟩
      · simp only [entered]
        exact .enters rfl found shifted.2.method shifted.2.pointer room _ _
      · simp only [refused]
        exact .overflows full _ _
      · simp only [refused]
        exact .fails broken _ _ _

/-- Whatever instruction it is, it makes one of these things of the calls in progress. -/
theorem dispatch_follows :
    (dispatch program hook limits opcode frame callers memory hookState).Follows program limits
      (some opcode) frame callers := by
  have within {pops pushes : Nat} (effect : opcode.effect? = some (pops, pushes)) (silent : opcode ≠ .throw) :
      (dispatch program hook limits opcode frame callers memory hookState).Follows program limits
      (some opcode) frame callers :=
    (dispatch_within effect silent).follows
  cases opcode with
  | «return» => exact leaveCall_follows
  | throw => exact raised_follows
  | call name => exact call_follows name
  | _ => exact within rfl (by simp)

/-- And so does every step of a machine with a call in progress. -/
theorem step_follows (frame : Frame) (callers : List Frame) (memory : Memory) (hookState : σ) :
    (step program hook limits ⟨frame :: callers, memory, hookState⟩).Follows program limits
      (frame.method.code[frame.pointer]?.map (·.opcode)) { frame with pointer := frame.pointer + 1 } callers := by
  cases fetched : frame.method.code[frame.pointer]? with
  | none =>
    rw [step_of_fellOff fetched]
    exact .fails rfl _ _ _
  | some instruction =>
    rw [step_of_fetched fetched]
    exact dispatch_follows

end State

section Room

variable {program : Program} {hook : Hook σ} {limits : Limits}

/-- A step that leaves no more calls than the limits allow, and that halts for the limit on calls only if it
was reached. -/
inductive Step.Roomy (limits : Limits) : Step σ → Prop
  | running {state : State σ} (room : state.frames.length ≤ limits.depth) : Roomy limits (.running state)
  | halted {result : Except RuntimeError (Option Value)} {state : State σ} (room : state.frames.length ≤ limits.depth)
      (uncounted : ∀ limit, result ≠ .error (.stepLimit limit))
      (full : ∀ depth, result = .error (.stackOverflow depth) → depth = limits.depth) :
      Roomy limits (.halted result state)

theorem Step.Roomy.room {step : Step σ} (h : step.Roomy limits) : step.state.frames.length ≤ limits.depth := by
  cases h with
  | running room => exact room
  | halted room => exact room

theorem Step.Roomy.fails {failure : RuntimeError} (broken : failure.isBreakdown = true) {state : State σ}
    (room : state.frames.length ≤ limits.depth) : Step.Roomy limits (.halted (.error failure) state) := by
  refine .halted room ?_ ?_
  · rintro limit ⟨⟩
    cases broken
  · rintro depth ⟨⟩
    cases broken

/-- Only a call adds a frame, and it does so only below the depth limit. -/
theorem Step.Follows.roomy {opcode : Option Opcode} {frame : Frame} {callers : List Frame} {step : Step σ}
    (h : step.Follows program limits opcode frame callers)
    (room : callers.length < limits.depth) : step.Roomy limits := by
  cases h with
  | stays => exact .running room
  | enters _ _ _ _ more => exact .running more
  | leaves waiting =>
    rw [waiting] at room
    exact .running (Nat.le_of_lt room)
  | returns => exact .halted (Nat.zero_le _) nofun nofun
  | raises => exact .halted room nofun nofun
  | overflows full =>
    refine .halted room nofun ?_
    rintro depth ⟨⟩
    exact Nat.le_antisymm room full
  | fails broken => exact .fails broken room

theorem State.step_roomy {state : State σ} (room : state.frames.length ≤ limits.depth) :
    (step program hook limits state).Roomy limits := by
  obtain ⟨frames, memory, hookState⟩ := state
  cases frames with
  | nil => exact .fails rfl (Nat.zero_le _)
  | cons frame callers => exact (step_follows frame callers memory hookState).roomy room

/-- No number of steps exceeds the depth limit when the first state does not. -/
theorem State.advance_roomy {state : State σ} (room : state.frames.length ≤ limits.depth) (count : Nat) :
    (advance (step program hook limits) count state).Roomy limits := by
  induction count generalizing state with
  | zero => exact .running room
  | succ count ih =>
    have stepped : (step program hook limits state).Roomy limits := step_roomy room
    rw [advance]
    generalize step program hook limits state = next at stepped
    cases stepped with
    | running more => exact ih more
    | halted more uncounted full => exact .halted more uncounted full

end Room

end Follows

end Faultline
