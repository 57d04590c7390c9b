import Faultline.Proofs.Machine.Calls

namespace Faultline

variable {σ τ : Type}

/-! Limits, and invocations within them. -/

/-- Limits that nowhere exceed others; there, an absent one exceeds all. -/
structure Limits.Within (limits limits' : Limits) : Prop where
  steps : ∀ limit' ∈ limits'.steps, ∃ limit ∈ limits.steps, limit ≤ limit'
  depth : limits.depth ≤ limits'.depth

/-- The number of instructions to which an invocation is held, without a limit of its own the range of the counter. -/
def Limits.ceiling (limits : Limits) : UInt64 := limits.steps.getD 0xFFFFFFFFFFFFFFFF

namespace Machine

variable {machine : Machine} {hook : Hook σ} {method : Member} {args : List Value}

theorem invoke_of_unknown {failure : RuntimeError} (unknown : machine.program.method method = .error failure)
    (hookState : σ) :
    machine.invoke hook hookState method args = (.error failure, machine, hookState) := by
  simp only [invoke, unknown]

theorem invoke_of_refused {target : Method} {failure : RuntimeError}
    (found : machine.program.method method = .ok target)
    (refused : enterCall machine.limits target args [] = .error failure) (hookState : σ) :
    machine.invoke hook hookState method args = (.error failure, { machine with steps := 0 }, hookState) := by
  simp only [invoke, found, refused]

theorem invoke_of_entered {target : Method} {frames : List Frame} (found : machine.program.method method = .ok target)
    (entered : enterCall machine.limits target args [] = .ok frames) (hookState : σ) :
    let run := State.run machine.program hook machine.limits machine.limits.ceiling machine.limits.ceiling.toNat
      ⟨frames, machine.memory, hookState⟩
    machine.invoke hook hookState method args =
      (run.1, { machine with memory := run.2.2.memory, steps := machine.limits.ceiling.toNat - run.2.1 },
        run.2.2.hookState) := by
  simp only [invoke, found, entered]
  rfl

end Machine

/-- A wider limit has no lower ceiling, also where one of the two is absent. -/
theorem Limits.Within.ceiling_le {limits limits' : Limits} (wider : limits.Within limits') :
    limits.ceiling.toNat ≤ limits'.ceiling.toNat := by
  cases present : limits'.steps with
  | none =>
    have most : limits'.ceiling.toNat = 2 ^ 64 - 1 := by rw [ceiling, present]; rfl
    have := limits.ceiling.toNat_lt
    omega
  | some limit' =>
    obtain ⟨limit, listed, below⟩ := wider.steps limit' present
    have own : limits.ceiling = limit := by rw [ceiling, listed]; rfl
    have other : limits'.ceiling = limit' := by rw [ceiling, present]; rfl
    rw [own, other]
    exact UInt64.le_iff_toNat_le.1 below

/-- A result that is due to one of the limits. -/
inductive CutShort : Except RuntimeError (Option Value) → Prop
  | steps (limit : UInt64) : CutShort (.error (.stepLimit limit))
  | depth (depth : Nat) : CutShort (.error (.stackOverflow depth))

/-! What a hook is called with. -/

/-- A call of a hook: the place, the value that is shown, and the objects as they are at that moment. -/
structure HookCall where
  point : HookPoint
  value : Value
  heap : Heap

/-- The hook, with a note of each of its calls, the latest last. -/
def Hook.noting (hook : Hook σ) : Hook (σ × List HookCall) := fun point value state heap =>
  let (answer, hookState, heap') := hook point value state.1 heap
  (answer, (hookState, state.2 ++ [⟨point, value, heap⟩]), heap')

/-- The calls that an invocation makes of the hook, in order. -/
def Machine.hookCalls (machine : Machine) (hook : Hook σ) (hookState : σ) (method : Member)
    (args : List Value) : List HookCall :=
  (machine.invoke hook.noting (hookState, []) method args).2.2.2

section Forgetting

/-- A hook that another one is once part of its state is forgotten. -/
def Hook.Forgets (forget : σ → τ) (hook : Hook σ) (hook' : Hook τ) : Prop :=
  ∀ point value hookState heap, hook' point value (forget hookState) heap =
    ((hook point value hookState heap).1, forget (hook point value hookState heap).2.1,
      (hook point value hookState heap).2.2)

def State.mapHook (forget : σ → τ) (state : State σ) : State τ := ⟨state.frames, state.memory, forget state.hookState⟩

def Step.mapHook (forget : σ → τ) : Step σ → Step τ
  | running state => .running (state.mapHook forget)
  | halted result state => .halted result (state.mapHook forget)

variable {forget : σ → τ} {hook : Hook σ} {hook' : Hook τ}

theorem Hook.noting_forgets (hook : Hook σ) : Hook.Forgets Prod.fst hook.noting hook := fun _ _ _ _ => rfl

/-- Whether hooks do the same with a value once part of the state of the one is forgotten. -/
def Hook.Agrees (forget : σ → τ) (hook : Hook σ) (hook' : Hook τ) (hookState : σ) (heap : Heap)
    (point : HookPoint) (value : Value) :
    Prop :=
  hook' point value (forget hookState) heap =
    ((hook point value hookState heap).1, forget (hook point value hookState heap).2.1,
      (hook point value hookState heap).2.2)

section Steps

variable {program : Program} {limits : Limits} {opcode : Opcode} {type : ValueType} {frame : Frame}
  {callers : List Frame} {memory : Memory} {hookState : σ}

/-- A hook call uses the hook only for the value that it shows. -/
theorem State.observe_mapHook (agrees : ∀ point value rest, frame.popHookCall type = .ok ((point, value), rest) →
    Hook.Agrees forget hook hook' hookState memory.heap point value) :
    observe hook' type frame callers memory
      (forget hookState) = (observe hook type frame callers memory hookState).mapHook forget := by
  unfold observe
  generalize frame.popHookCall type = popped at agrees
  cases popped with
  | error failure => rfl
  | ok seen =>
    obtain ⟨⟨point, value⟩, rest⟩ := seen
    obtain ⟨heap, statics⟩ := memory
    have same := agrees point value rest rfl
    rw [Hook.Agrees] at same
    simp only [same]
    generalize hook point value hookState heap = answer
    obtain ⟨answer | shown, hookState, heap⟩ := answer
    · rfl
    · dsimp only
      split <;> rfl

/-- No instruction but a hook call uses the hook or looks at its state. -/
theorem State.dispatch_mapHook (agrees : ∀ type point value rest, opcode = .callHook type →
    frame.popHookCall type = .ok ((point, value), rest) →
    Hook.Agrees forget hook hook' hookState memory.heap point value) :
    dispatch program hook' limits opcode frame callers memory (forget hookState) =
      (dispatch program hook limits opcode frame callers memory hookState).mapHook forget := by
  cases opcode with
  | «return» =>
    simp only [dispatch, leaveCall]
    split <;> rfl
  | throw => rfl
  | call name =>
    simp only [dispatch]
    split <;> rfl
  | callHook type => exact observe_mapHook fun point value rest => agrees type point value rest rfl
  | _ =>
    rw [dispatch_of_isLocal rfl, dispatch_of_isLocal rfl]
    split <;> rfl

/-- So a step is the same with two hooks that do the same with the value that it shows, if it shows one. -/
theorem State.step_mapHook (state : State σ) (agrees : ∀ frame callers instruction type point value rest,
    state.frames = frame :: callers → frame.method.code[frame.pointer]? = some instruction →
    instruction.opcode = .callHook type →
    { frame with pointer := frame.pointer + 1 }.popHookCall type = .ok ((point, value), rest) →
    Hook.Agrees forget hook hook' state.hookState state.memory.heap point value) :
    step program hook' limits (state.mapHook forget) = (step program hook limits state).mapHook forget := by
  obtain ⟨frames, memory, hookState⟩ := state
  cases frames with
  | nil => rfl
  | cons frame callers =>
    rw [mapHook]
    cases fetched : frame.method.code[frame.pointer]? with
    | none =>
      rw [step_of_fellOff fetched, step_of_fellOff fetched]
      rfl
    | some instruction =>
      rw [step_of_fetched fetched, step_of_fetched fetched]
      exact dispatch_mapHook fun type point value rest =>
        agrees frame callers instruction type point value rest rfl fetched

end Steps

/-- A hook whose memory is mapped runs through the same states, with the memory mapped. -/
theorem State.run_mapHook (forgets : Hook.Forgets forget hook hook') (program : Program) (limits : Limits)
    (limit : UInt64) (left : Nat) (state : State σ) :
    let run := State.run program hook limits limit left state
    State.run program hook' limits limit left (state.mapHook forget) = (run.1, run.2.1, run.2.2.mapHook forget) := by
  induction left generalizing state with
  | zero => rfl
  | succ left ih =>
    have same : step program hook' limits (state.mapHook forget) = (step program hook limits state).mapHook forget :=
      step_mapHook state fun _ _ _ _ point value _ _ _ _ _ => forgets point value ..
    simp only [State.run, same]
    cases step program hook limits state with
    | running later => exact ih later
    | halted result last => rfl

/-- What is forgotten makes no difference to an invocation. -/
theorem Machine.invoke_mapHook (forgets : Hook.Forgets forget hook hook') (machine : Machine) (hookState : σ)
    (method : Member) (args : List Value) :
    let run := machine.invoke hook hookState method args
    machine.invoke hook' (forget hookState) method args = (run.1, run.2.1, forget run.2.2) := by
  cases found : machine.program.method method with
  | error failure => simp only [invoke_of_unknown found]
  | ok target =>
    cases entered : enterCall machine.limits target args [] with
    | error failure => simp only [invoke_of_refused found entered]
    | ok frames =>
      have same := State.run_mapHook forgets machine.program machine.limits machine.limits.ceiling
        machine.limits.ceiling.toNat ⟨frames, machine.memory, hookState⟩
      simp only [State.mapHook] at same
      simp only [invoke_of_entered found entered, same]

end Forgetting

section Widening

variable {program : Program} {hook : Hook σ} {limits limits' : Limits}

/-- With more room a call is entered as before, unless there was none for it. -/
theorem enterCall_widened (deeper : limits.depth ≤ limits'.depth) (method : Method) (args : List Value)
    (frames : List Frame) :
    enterCall limits method args frames = .error (.stackOverflow frames.length) ∨
      enterCall limits' method args frames = enterCall limits method args frames := by
  unfold enterCall
  split
  · exact Or.inr rfl
  · split
    · exact Or.inr rfl
    · by_cases full : limits.depth ≤ frames.length
      · exact Or.inl (if_pos full)
      · have room : ¬ limits'.depth ≤ frames.length := by omega
        exact Or.inr (by rw [if_neg full, if_neg room])

/-- With more depth a call is entered as before, unless it was the depth that refused it. -/
theorem State.callFrames_widened (deeper : limits.depth ≤ limits'.depth) (name : Member) (frame : Frame)
    (callers : List Frame) :
    (∃ depth, callFrames program limits name frame callers = .error (.stackOverflow depth)) ∨
      callFrames program limits' name frame callers = callFrames program limits name frame callers := by
  unfold callFrames
  cases program.method name with
  | error failure => exact Or.inr rfl
  | ok method =>
    simp only [bind, Except.bind]
    cases frame.popMany method.argCount with
    | error failure => exact Or.inr rfl
    | ok taken => exact (enterCall_widened deeper method taken.1 (taken.2 :: callers)).imp_left fun full => ⟨_, full⟩

/-- With more room a step is the same, unless it halts for want of room and leaves everything as it was. -/
theorem State.step_widened (deeper : limits.depth ≤ limits'.depth) (state : State σ) :
    (∃ depth frames, step program hook limits state =
        .halted (.error (.stackOverflow depth)) ⟨frames, state.memory, state.hookState⟩) ∨
      step program hook limits' state = step program hook limits state := by
  obtain ⟨frames, memory, hookState⟩ := state
  cases frames with
  | nil => exact Or.inr rfl
  | cons frame callers =>
    cases fetched : frame.method.code[frame.pointer]? with
    | none => exact Or.inr ((step_of_fellOff fetched).trans (step_of_fellOff fetched).symm)
    | some instruction =>
      rw [step_of_fetched fetched, step_of_fetched fetched]
      generalize instruction.opcode = opcode
      cases opcode with
      | call name =>
        simp only [dispatch]
        rcases callFrames_widened deeper name { frame with pointer := frame.pointer + 1 } callers
          with ⟨depth, full⟩ | same
        · exact Or.inl ⟨depth, _, by rw [full]⟩
        · exact Or.inr (by rw [same])
      | _ => exact Or.inr rfl

/-- With more steps and more room a run comes to the same end, or it was cut short and now goes on from there. -/
theorem State.run_widened (deeper : limits.depth ≤ limits'.depth) (limit limit' : UInt64) (left more : Nat)
    (state : State σ) :
    let run := State.run program hook limits limit left state
    let run' := State.run program hook limits' limit' (left + more) state
    run' = (run.1, run.2.1 + more, run.2.2) ∨
      CutShort run.1 ∧ ∃ left' last, run' = State.run program hook limits' limit' left' last ∧
      last.memory = run.2.2.memory ∧
        last.hookState = run.2.2.hookState := by
  induction left generalizing state with
  | zero => exact Or.inr ⟨.steps limit, 0 + more, state, rfl, rfl, rfl⟩
  | succ left ih =>
    have stepped : (∃ depth frames, step program hook limits state =
          .halted (.error (.stackOverflow depth)) ⟨frames, state.memory, state.hookState⟩) ∨
        step program hook limits' state = step program hook limits state := step_widened deeper state
    rcases stepped with ⟨depth, frames, full⟩ | same
    · simp only [State.run, full]
      exact Or.inr ⟨.depth depth, left + 1 + more, state, rfl, rfl, rfl⟩
    · rw [Nat.succ_add]
      simp only [State.run, same]
      cases step program hook limits state with
      | running later => exact ih later
      | halted result last => exact Or.inl rfl

/-- What hook calls keep of the hook's state, a run keeps. -/
theorem State.run_hookState {P : σ → Prop}
    (kept : ∀ point value hookState heap, P hookState → P (hook point value hookState heap).2.1)
    (limit : UInt64) (left : Nat) {state : State σ} (start : P state.hookState) :
    P (State.run program hook limits limit left state).2.2.hookState := by
  have same := run_eq program hook limits limit left state
  have throughout : P (advance (step program hook limits) left state).hookState := advance_hookState kept start
  generalize advance (step program hook limits) left state = reached at same throughout
  cases reached with
  | running last => rwa [same.2]
  | halted result last => rwa [same.2]

/-- A run reports a limit only if it was reached. -/
theorem State.run_limits (program : Program) (hook : Hook σ) {state : State σ}
    (room : state.frames.length ≤ limits.depth) (limit : UInt64) (left : Nat) :
    let run := State.run program hook limits limit left state
    (∀ reported, run.1 = .error (.stepLimit reported) → reported = limit ∧ run.2.1 = 0) ∧
      ∀ depth, run.1 = .error (.stackOverflow depth) → depth = limits.depth := by
  induction left generalizing state with
  | zero =>
    refine ⟨?_, nofun⟩
    rintro reported ⟨⟩
    exact ⟨rfl, rfl⟩
  | succ left ih =>
    have stepped : (step program hook limits state).Roomy limits := step_roomy room
    simp only [State.run]
    generalize step program hook limits state = next at stepped
    cases stepped with
    | running more => exact ih more
    | halted _ uncounted full => exact ⟨fun reported ended => absurd ended (uncounted reported), full⟩

end Widening

namespace Machine

variable {hook : Hook σ}

/-- What hook calls keep of the hook's state, an invocation keeps. -/
theorem invoke_hookState {P : σ → Prop}
    (kept : ∀ point value hookState heap, P hookState → P (hook point value hookState heap).2.1)
    (machine : Machine) (method : Member) (args : List Value) {hookState : σ} (start : P hookState) :
    P (machine.invoke hook hookState method args).2.2 := by
  cases found : machine.program.method method with
  | error failure => rwa [invoke_of_unknown found]
  | ok target =>
    cases entered : enterCall machine.limits target args [] with
    | error failure => rwa [invoke_of_refused found entered]
    | ok frames =>
      rw [invoke_of_entered found entered]
      exact State.run_hookState kept _ _ start

/-- Under larger limits an invocation comes to the same end, or it was cut short and the hook goes on from
where it was. -/
theorem invoke_same_or_cutShort {limits limits' : Limits} (wider : limits.Within limits') (program : Program)
    (memory : Memory) (before : Nat) (hook : Hook σ) (hookState : σ) (method : Member) (args : List Value) :
    let run := (⟨program, limits, memory, before⟩ : Machine).invoke hook hookState method args
    let run' := (⟨program, limits', memory, before⟩ : Machine).invoke hook hookState method args
    (run'.1 = run.1 ∧ run'.2.1.memory = run.2.1.memory ∧ run'.2.1.steps = run.2.1.steps ∧ run'.2.2 = run.2.2) ∨
      CutShort run.1 ∧ ∀ P : σ → Prop,
      (∀ point value hookState heap, P hookState → P (hook point value hookState heap).2.1) →
        P run.2.2 → P run'.2.2 := by
  intro run run'
  cases found : program.method method with
  | error failure =>
    have narrow : run = (.error failure, ⟨program, limits, memory, before⟩, hookState) :=
      invoke_of_unknown found hookState
    have wide : run' = (.error failure, ⟨program, limits', memory, before⟩, hookState) :=
      invoke_of_unknown found hookState
    rw [narrow, wide]
    exact Or.inl ⟨rfl, rfl, rfl, rfl⟩
  | ok target =>
    rcases enterCall_widened wider.depth target args [] with full | same
    · have narrow : run = (.error (.stackOverflow 0), ⟨program, limits, memory, 0⟩, hookState) :=
        invoke_of_refused found full hookState
      rw [narrow]
      exact Or.inr ⟨.depth 0, fun P kept start => invoke_hookState kept _ method args start⟩
    · cases entered : enterCall limits target args [] with
      | error failure =>
        have narrow : run = (.error failure, ⟨program, limits, memory, 0⟩, hookState) :=
          invoke_of_refused found entered hookState
        have wide : run' = (.error failure, ⟨program, limits', memory, 0⟩, hookState) :=
          invoke_of_refused found (same.trans entered) hookState
        rw [narrow, wide]
        exact Or.inl ⟨rfl, rfl, rfl, rfl⟩
      | ok frames =>
        obtain ⟨more, longer⟩ := Nat.exists_eq_add_of_le wider.ceiling_le
        have narrow : run = _ := invoke_of_entered found entered hookState
        have wide : run' = _ := invoke_of_entered found (same.trans entered) hookState
        simp only [longer] at wide
        rw [narrow, wide]
        rcases State.run_widened wider.depth limits.ceiling limits'.ceiling limits.ceiling.toNat more
          ⟨frames, memory, hookState⟩ with
          same | ⟨cut, left, last, onward, _, resumed⟩
        · rw [same]
          exact Or.inl ⟨rfl, rfl, Nat.add_sub_add_right .., rfl⟩
        · rw [onward]
          exact Or.inr ⟨cut, fun P kept start => State.run_hookState kept _ _ (resumed ▸ start)⟩

/-- An invocation reports a limit only if it was reached, and counts no more instructions than it may execute.
The count stays as it was if the method is unknown. -/
theorem invoke_limits (machine : Machine) (hook : Hook σ) (hookState : σ) (method : Member) (args : List Value) :
    let run := machine.invoke hook hookState method args
    (∀ limit, run.1 = .error (.stepLimit limit) → limit = machine.limits.ceiling ∧ run.2.1.steps = limit.toNat) ∧
      (∀ depth, run.1 = .error (.stackOverflow depth) → depth = machine.limits.depth) ∧
      (run.2.1.steps ≤ machine.limits.ceiling.toNat ∨
        run.1 = .error (.unknownMethod method.text) ∧ run.2.1.steps = machine.steps) := by
  intro run
  cases found : machine.program.method method with
  | error failure =>
    obtain rfl := Program.eq_unknownMethod found
    have unknown : run = _ := invoke_of_unknown found hookState
    rw [unknown]
    exact ⟨nofun, nofun, Or.inr ⟨rfl, rfl⟩⟩
  | ok target =>
    rcases enterCall_cases machine.limits target args []
      with ⟨entered, room⟩ | ⟨refused, full⟩ | ⟨failure, refused, broken⟩
    · have ran : run = _ := invoke_of_entered found entered hookState
      rw [ran]
      have start : (⟨[Frame.enter target args], machine.memory, hookState⟩ : State σ).frames.length ≤
        machine.limits.depth := room
      obtain ⟨counted, deep⟩ :=
        State.run_limits machine.program hook start machine.limits.ceiling machine.limits.ceiling.toNat
      refine ⟨fun limit ended => ?_, deep, Or.inl (Nat.sub_le ..)⟩
      obtain ⟨rfl, none⟩ := counted limit ended
      exact ⟨rfl, by simp only [none, Nat.sub_zero]⟩
    · have overflown : run = _ := invoke_of_refused found refused hookState
      rw [overflown]
      refine ⟨nofun, ?_, Or.inl (Nat.zero_le _)⟩
      rintro depth ⟨⟩
      exact (Nat.le_zero.1 full).symm
    · have broke : run = _ := invoke_of_refused found refused hookState
      rw [broke]
      refine ⟨?_, ?_, Or.inl (Nat.zero_le _)⟩
      · rintro limit ⟨⟩
        cases broken
      · rintro depth ⟨⟩
        cases broken

/-- Limits only cut invocations short. What ends under some limits otherwise than for want of instructions or
of room ends the same under any larger ones: with the same result, memory, calls of the hook and number of
instructions; and so it ends where instructions are not counted at all. What is cut short has used up the
limit that it reports, and has made the first of the calls that the hook gets under the larger ones. There are
never more instructions or calls in progress than allowed; only where the method is unknown, so that nothing
is invoked, the counter still has the number of the invocation before. -/
theorem invoke_widened {limits limits' : Limits} (wider : limits.Within limits') (program : Program)
    (memory : Memory) (before : Nat) (hook : Hook σ) (hookState : σ) (method : Member) (args : List Value) :
    let narrow : Machine := ⟨program, limits, memory, before⟩
    let wide : Machine := ⟨program, limits', memory, before⟩
    let run := narrow.invoke hook hookState method args
    let run' := wide.invoke hook hookState method args
    let calls := narrow.hookCalls hook hookState method args
    let calls' := wide.hookCalls hook hookState method args
    (¬ CutShort run.1 → run'.1 = run.1 ∧ run'.2.1.memory = run.2.1.memory ∧ calls' = calls ∧ run'.2.2 = run.2.2 ∧
        run'.2.1.steps = run.2.1.steps ∧
        program.Ends limits' (State.step program hook limits') ⟨method, args, memory, hookState⟩
        ⟨run.1, run.2.1.memory, run.2.2⟩) ∧
      (∀ limit, run.1 = .error (.stepLimit limit) → limit = limits.ceiling ∧ run.2.1.steps = limit.toNat) ∧
      (∀ depth, run.1 = .error (.stackOverflow depth) → depth = limits.depth) ∧
      calls <+: calls' ∧
      (run.2.1.steps ≤ limits.ceiling.toNat ∨ run.1 = .error (.unknownMethod method.text) ∧ run.2.1.steps = before) ∧
      ∀ frames, program.enter limits method args = .ok frames → ∀ count,
        (State.advance (State.step program hook limits) count
          ⟨frames, memory, hookState⟩).state.frames.length ≤ limits.depth := by
  intro narrow wide run run' calls calls'
  obtain ⟨counted, deep, within⟩ := narrow.invoke_limits hook hookState method args
  have ending := invoke_same_or_cutShort wider program memory before hook.noting (hookState, []) method args
  have noted : run = _ := invoke_mapHook hook.noting_forgets narrow (hookState, []) method args
  refine ⟨fun complete => ?_, counted, deep, ?_, within, fun frames entered count => ?_⟩
  · have sameCalls : calls' = calls := by
      rcases ending with ⟨_, _, _, state⟩ | ⟨cut, _⟩
      · exact congrArg Prod.snd state
      · rw [noted] at complete
        exact absurd cut complete
    rcases invoke_same_or_cutShort wider program memory before hook hookState method args with
      ⟨result, memory, steps, state⟩ | ⟨cut, _⟩
    · have uncounted : run'.1 ≠ .error (.stepLimit limits'.ceiling) := by
        rw [result]
        exact fun exhausted => complete (exhausted ▸ .steps _)
      have answer : wide.invoke hook hookState method args = (run'.1, run'.2.1, run'.2.2) := rfl
      have ends := invoke_ends_within answer uncounted
      rw [result, memory, state] at ends
      exact ⟨result, memory, sameCalls, state, steps, ends⟩
    · exact absurd cut complete
  · have kept : ∀ point value hookState heap, calls <+: Prod.snd hookState →
        calls <+: (hook.noting point value hookState heap).2.1.2 := fun _ _ _ _ made =>
        made.trans (List.prefix_append ..)
    rcases ending with ⟨_, _, _, state⟩ | ⟨_, onward⟩
    · have same : calls' = calls := congrArg Prod.snd state
      exact same.symm ▸ List.prefix_rfl
    · exact onward (fun hookState => calls <+: hookState.2) kept List.prefix_rfl
  · obtain ⟨target, _, rfl, room⟩ := Program.enter_eq_ok entered
    have start : (⟨[Frame.enter target args], memory, hookState⟩ : State σ).frames.length ≤ limits.depth := room
    exact (State.advance_roomy start count).room

end Machine

/-- A module with a method that shows a number to the hook and then calls one that does nothing. -/
def reportingModule : Module :=
  let method (name : String) (opcodes : List Opcode) : Method :=
    { owner := "Report", name, isStatic := true, params := [], locals := [], returns := none, attributes := []
      body := some (opcodes.map fun opcode => ⟨opcode, none⟩).toArray }
  { name := "Report", optimized := false, debugInfo := .full, metadata := .empty, classes := [], sites := []
    methods := [
      method "shows" [.loadInt32 5, .box .int32, .loadString "r", .loadInt32 1, .loadInt32 1, .loadInt32 2,
        .loadInt32 3, .loadInt64 7, .callHook .int32, .pop, .call ⟨"Report", "rests"⟩, .return],
      method "rests" [.return]] }

/-- With room for one call the method is cut short behind its call of the hook; with room for two it ends,
after thirteen instructions. -/
theorem Machine.invoke_widened_reporting : ∃ program, Program.link [reportingModule] = .ok program ∧
    Limits.Within ⟨some 20, 1⟩ ⟨some 20, 2⟩ ∧ Limits.Within ⟨some 13, 2⟩ ⟨none, 512⟩ ∧
    let machine (limits : Limits) : Machine := ⟨program, limits, ⟨.empty, .empty⟩, 0⟩
    let run (limits : Limits) := (machine limits).invoke passThrough () ⟨"Report", "shows"⟩ []
    let calls (limits : Limits) := (machine limits).hookCalls passThrough () ⟨"Report", "shows"⟩ []
    (run ⟨some 20, 1⟩).1 = .error (.stackOverflow 1) ∧
      (calls ⟨some 20, 1⟩).map (·.point) = [⟨7, .int32, ⟨"r", 1, 1, 2, 3⟩⟩] ∧
      calls ⟨some 20, 1⟩ <+: calls ⟨some 20, 2⟩ ∧
      (run ⟨none, 512⟩).1 = .ok none ∧ (run ⟨none, 512⟩).2.1.steps = 13 ∧ calls ⟨none, 512⟩ = calls ⟨some 13, 2⟩ := by
  have deeper : Limits.Within ⟨some 20, 1⟩ ⟨some 20, 2⟩ :=
    ⟨fun limit same => ⟨limit, same, UInt64.le_refl limit⟩, by decide⟩
  have unlimited : Limits.Within ⟨some 13, 2⟩ ⟨none, 512⟩ := ⟨fun limit absent => (by cases absent), by decide⟩
  obtain ⟨program, linked, cut, shown, ended, counted⟩ : ∃ program, Program.link [reportingModule] = .ok program ∧
      let machine (limits : Limits) : Machine := ⟨program, limits, ⟨.empty, .empty⟩, 0⟩
      let run (limits : Limits) := (machine limits).invoke passThrough () ⟨"Report", "shows"⟩ []
      (run ⟨some 20, 1⟩).1 = .error (.stackOverflow 1) ∧
        ((machine ⟨some 20, 1⟩).hookCalls passThrough () ⟨"Report", "shows"⟩ []).map (·.point) =
          [⟨7, .int32, ⟨"r", 1, 1, 2, 3⟩⟩] ∧
        (run ⟨some 13, 2⟩).1 = .ok none ∧ (run ⟨some 13, 2⟩).2.1.steps = 13 := ⟨_, rfl, rfl, rfl, rfl, rfl⟩
  obtain ⟨-, -, -, begins, -⟩ := invoke_widened deeper program ⟨.empty, .empty⟩ 0 passThrough ()
    ⟨"Report", "shows"⟩ []
  obtain ⟨same, -⟩ := invoke_widened unlimited program ⟨.empty, .empty⟩ 0 passThrough () ⟨"Report", "shows"⟩ []
  have complete : ¬ CutShort (.ok none) := nofun
  obtain ⟨result, -, calls, -, steps, -⟩ := same (ended ▸ complete)
  exact ⟨program, linked, deeper, unlimited, cut, shown, begins, result.trans ended, steps.trans counted, calls⟩

end Faultline
