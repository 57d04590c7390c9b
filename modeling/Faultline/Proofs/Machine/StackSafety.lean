import Faultline.Proofs.Code.StackDepth
import Faultline.Proofs.Machine.Balance
import Faultline.Proofs.Machine.Inversion
import Faultline.Proofs.Machine.Renaming

namespace Faultline

/-- A call about to execute an instruction, its stack as deep as the analysis says. -/
def Frame.Level (program : Program) (frame : Frame) : Prop :=
  frame.pointer < frame.method.code.size →
    frame.method.depthAt? (signatureIn? program.modules) frame.pointer = some frame.stack.length

/-- A call that waits for `callee` to return: its stack is as deep as the analysis says before the call, less the
arguments. -/
def Frame.Suspended (program : Program) (callee : Method) (frame : Frame) : Prop :=
  ∃ index instruction name, frame.pointer = index + 1 ∧ frame.method.code[index]? = some instruction ∧
    instruction.opcode = .call name ∧ program.method name = .ok callee ∧
      frame.method.depthAt? (signatureIn? program.modules) index = some (frame.stack.length + callee.argCount)

/-- Calls each of which waits for the one inside it, the innermost of them for `callee`. -/
inductive Program.Waiting (program : Program) : Method → List Frame → Prop
  | nil (callee : Method) : Waiting program callee []
  | cons {callee : Method} {caller : Frame} {rest : List Frame} (suspended : caller.Suspended program callee)
      (outer : Waiting program caller.method rest) : Waiting program callee (caller :: rest)

/-- A state of which every stack is as deep as the analysis says. -/
inductive State.Level {σ : Type} (program : Program) : State σ → Prop
  | intro {frame : Frame} {callers : List Frame} (level : frame.Level program)
      (waiting : program.Waiting frame.method callers) (memory : Memory) (hookState : σ) :
      Level program ⟨frame :: callers, memory, hookState⟩

/-- A step that goes on in such a state or ends otherwise than for an imbalance. -/
inductive Step.Level {σ : Type} (program : Program) : Step σ → Prop
  | running {state : State σ} (level : state.Level program) : Level program (.running state)
  | halted {result : Except RuntimeError (Option Value)} (harmless : Harmless result) (state : State σ) :
      Level program (.halted result state)

/-- A program of which the analysis accepts every method that has a body. -/
def Program.Accepted (program : Program) : Prop :=
  ∀ method, program.Declares method → method.body.isSome →
    ∃ depths, method.stackDepths (signatureIn? program.modules) = .ok depths

section Level

variable {σ : Type} {program : Program} {hook : Hook σ} {limits : Limits} {frame : Frame} {callers : List Frame}
  {memory : Memory} {hookState : σ}

/-- A method that is entered starts with an empty stack, as the analysis says. -/
theorem Program.Accepted.enter (accepted : program.Accepted) {method : Method} (declared : program.Declares method)
    (present : method.body.isSome) (args : List Value) : (Frame.enter method args).Level program := by
  intro inside
  obtain ⟨depths, found⟩ := accepted method declared present
  exact Method.depthAt?_zero found inside

/-- What the analysis knows of the instruction that a level call executes next. -/
theorem Frame.Level.flow (level : frame.Level program) {instruction : Instruction}
    (fetched : frame.method.code[frame.pointer]? = some instruction) :
    ∃ pops pushes, frame.method.effectAt (signatureIn? program.modules) frame.pointer instruction.opcode = .ok
      (pops, pushes) ∧
      pops ≤ frame.stack.length ∧
        (instruction.opcode.isUnconditional = false → frame.method.depthAt? (signatureIn? program.modules)
          (frame.pointer + 1) =
          some (frame.stack.length - pops + pushes)) ∧
          ∀ target, instruction.opcode.target? = some target →
            frame.method.depthAt? (signatureIn? program.modules) target =
            some (frame.stack.length - pops + pushes) := by
  have inside : frame.pointer < frame.method.code.size := (Array.getElem?_eq_some_iff.1 fetched).1
  obtain ⟨known, pops, pushes, there, effect, enough, onward, jumping⟩ := Method.flow_of_depthAt? (level inside)
  rw [fetched] at there
  cases there
  exact ⟨pops, pushes, effect, enough, onward, jumping⟩

/-- A call is level where an instruction has left it if the analysis expects there what the instruction leaves. -/
theorem Frame.Shifted.level {pops pushes : Nat} {frame' : Frame}
    (shifted : Frame.Shifted pops pushes frame frame') (enough : pops ≤ frame.stack.length)
    (expected : frame.method.depthAt? (signatureIn? program.modules) frame'.pointer = some
      (frame.stack.length - pops + pushes)) :
    frame'.Level program := by
  intro _
  have height := shifted.height
  rw [shifted.method, expected]
  congr 1
  omega

/-- When the call it waits for returns, a call is as deep as the analysis says once it has the result. -/
theorem Frame.Suspended.resume {callee : Method} (suspended : frame.Suspended program callee) :
    frame.method.depthAt? (signatureIn? program.modules) frame.pointer =
      some (frame.stack.length + if callee.returns.isSome then 1 else 0) := by
  obtain ⟨index, instruction, name, pointer, fetched, called, found, reached⟩ := suspended
  obtain ⟨known, pops, pushes, there, effect, enough, onward, _⟩ := Method.flow_of_depthAt? reached
  rw [fetched] at there
  cases there
  have signature : signatureIn? program.modules name = some callee.callEffect := by
    rw [program.signatureIn?_eq, found]; rfl
  simp only [called, Method.effectAt, signature, Method.callEffect, Except.ok.injEq, Prod.mk.injEq] at effect
  obtain ⟨rfl, rfl⟩ := effect
  rw [pointer, onward (by rw [called]; rfl)]
  congr 1
  omega

theorem RuntimeError.isImbalance_of_isOfHook {failure : RuntimeError} (ofHook : failure.isOfHook = true) :
    failure.isImbalance = false := by
  cases failure <;> first | rfl | cases ofHook

/-- Leaving a call pushes its result on the caller, to the depth the caller's analysis gave it. -/
theorem State.leaveCall_level (enough : frame.method.returns.isSome → 1 ≤ frame.stack.length)
    (waiting : program.Waiting frame.method callers) :
    (State.leaveCall frame callers memory hookState).Level program := by
  obtain ⟨failure, valued, refuses, left⟩ | ⟨result, valued, left⟩ :=
    State.leaveCall_cases frame callers memory hookState
  · rw [left]
    exact .halted (.error (Frame.Refuses.isImbalance_eq_false (enough valued) _ refuses)) _
  · rw [left]
    cases waiting with
    | nil => exact .halted (.ok trivial) _
    | @cons _ caller _ suspended outer =>
      have resumed := suspended.resume
      rw [← valued] at resumed
      cases result with
      | none => exact .running (.intro (fun _ => resumed) outer memory hookState)
      | some value =>
        have level : (caller.push value).Level program := fun _ => resumed
        exact .running (.intro level outer memory hookState)

theorem State.raised_harmless (frame : Frame) (enough : 1 ≤ frame.stack.length) (callers : List Frame) (heap : Heap) :
    (State.raised frame callers heap).isImbalance = false := by
  obtain refuses | ⟨text, raised⟩ := State.raised_cases frame callers heap
  · exact Frame.Refuses.isImbalance_eq_false enough _ refuses
  · rw [raised]
    rfl

/-- A call finds its method and its arguments, and then either fails for want of a body or of room or begins. -/
theorem State.balanced_callFrames {callee : Method} {name : Member} (found : program.method name = .ok callee)
    (frame : Frame) (enough : callee.argCount ≤ frame.stack.length) (limits : Limits) (callers : List Frame) :
    Balanced (fun entered => callee.body.isSome ∧ ∃ args rest, Frame.Shifted callee.argCount 0 frame rest ∧
      entered = Frame.enter callee args :: rest :: callers) (State.callFrames program limits name frame callers) := by
  unfold State.callFrames
  rw [found]
  refine (Frame.balanced_popMany enough).bind ?_
  rintro ⟨args, rest⟩ ⟨complete, shifted⟩
  exact (balanced_enterCall complete).mono fun entered ⟨present, same⟩ => ⟨present, args, rest, shifted, same⟩

/-- An instruction that stays in its call leaves it level if the analysis expects behind it and at its target
what it leaves. -/
theorem Step.Within.level {opcode : Opcode} {pops pushes : Nat} {step : Step σ}
    (within : step.Within opcode pops pushes frame callers) (enough : pops ≤ frame.stack.length)
    (onward : opcode.isUnconditional = false → frame.method.depthAt? (signatureIn? program.modules) frame.pointer =
      some (frame.stack.length - pops + pushes))
    (jumping : ∀ target, opcode.target? = some target → frame.method.depthAt? (signatureIn? program.modules) target =
      some (frame.stack.length - pops + pushes))
    (waiting : program.Waiting frame.method callers) : step.Level program := by
  cases within with
  | onward flows shifted memory hookState =>
    exact .running
      (.intro (shifted.level enough (shifted.pointer ▸ onward flows)) (shifted.method ▸ waiting) memory hookState)
  | @jumps target next aims shifted memory hookState =>
    have level : next.Level program := shifted.level enough (shifted.pointer ▸ jumping target aims)
    exact .running (.intro level (shifted.method ▸ waiting) memory hookState)
  | refuses refuses => exact .halted (.error (Frame.Refuses.isImbalance_eq_false enough _ refuses)) _
  | unanswered ofHook => exact .halted (.error (RuntimeError.isImbalance_of_isOfHook ofHook)) _

/-- One step keeps every stack as deep as the analysis says, and does not fail for an imbalance. -/
theorem State.Level.step (accepted : program.Accepted) {state : State σ} (h : state.Level program) :
    (State.step program hook limits state).Level program := by
  obtain ⟨level, waiting, memory, hookState⟩ := h
  rename_i frame callers
  cases fetched : frame.method.code[frame.pointer]? with
  | none =>
    rw [State.step_of_fellOff fetched]
    exact .halted (.error rfl) _
  | some instruction =>
    obtain ⟨pops, pushes, effect, enough, onward, jumping⟩ := level.flow fetched
    rw [State.step_of_fetched fetched]
    generalize kind : instruction.opcode = opcode at effect onward jumping
    have within {taken left : Nat} (sizes : opcode.effect? = some (taken, left)) (silent : opcode ≠ .throw) :
        (State.dispatch program hook limits opcode { frame with pointer := frame.pointer + 1 } callers memory
          hookState).Level
          program := by
      rw [Method.effectAt_of_effect? sizes] at effect
      cases effect
      exact (State.dispatch_within sizes silent).level enough onward jumping waiting
    cases opcode with
    | «return» =>
      refine State.leaveCall_level ?_ waiting
      intro valued
      cases effect
      rw [if_pos valued] at enough
      exact enough
    | throw =>
      cases effect
      have raised := State.raised_harmless { frame with pointer := frame.pointer + 1 } enough callers memory.heap
      exact .halted (.error raised) _
    | call name =>
      rw [Method.effectAt, program.signatureIn?_eq] at effect
      cases found : program.method name with
      | error failure =>
        rw [found] at effect
        cases effect
      | ok callee =>
        rw [found] at effect
        cases effect
        have called :=
          State.balanced_callFrames found { frame with pointer := frame.pointer + 1 } enough limits callers
        simp only [State.dispatch]
        generalize State.callFrames program limits name { frame with pointer := frame.pointer + 1 } callers =
          result at called
        cases called with
        | error other => exact .halted (.error other) _
        | ok entered =>
          obtain ⟨present, args, rest, shifted, rfl⟩ := entered
          have suspended : rest.Suspended program callee := by
            refine ⟨frame.pointer, instruction, name, shifted.pointer, ?_, kind, found, ?_⟩
            · rw [shifted.method]
              exact fetched
            · rw [shifted.method]
              exact (level (Array.getElem?_eq_some_iff.1 fetched).1).trans (congrArg some shifted.height.symm)
          exact .running (.intro (accepted.enter (Program.declares_of_method found) present args)
            (.cons suspended (shifted.method ▸ waiting)) memory hookState)
    | _ => exact within rfl (by simp)

/-- And so do any number of steps. -/
theorem State.Level.advance (accepted : program.Accepted) {state : State σ} (h : state.Level program) (count : Nat) :
    (State.advance (State.step program hook limits) count state).Level program := by
  induction count generalizing state with
  | zero => exact .running h
  | succ count ih =>
    have stepped : (State.step program hook limits state).Level program := h.step accepted
    simp only [State.advance]
    generalize State.step program hook limits state = next at stepped
    cases stepped with
    | running level => exact ih level
    | halted harmless last => exact .halted harmless last

/-- And so does a run, whether or not a limit cuts it off. -/
theorem State.Level.run (accepted : program.Accepted) {state : State σ} (h : state.Level program)
    (limit : UInt64) (left : Nat) :
    Harmless (State.run program hook limits limit left state).1 := by
  induction left generalizing state with
  | zero => exact .error rfl
  | succ left ih =>
    have stepped : (State.step program hook limits state).Level program := h.step accepted
    simp only [State.run]
    generalize State.step program hook limits state = next at stepped
    cases stepped with
    | running level => exact ih level
    | halted harmless last => exact harmless

end Level

/-- The stack analysis is sound for the machine. Where it accepts every method of a program, at every step of
every invocation the stack of the call that goes on is as deep as the analysis says, and that of each call in
progress as deep as it says at the call's instruction, less the arguments. So no invocation ends because
values are missing from a stack, or because a call is made of an unknown method or with the wrong number of
arguments. -/
theorem Program.stackDepths_sound {modules : List Module} {program : Program}
    (linked : Program.link modules = .ok program)
    (accepted : ∀ module ∈ modules, ∀ method ∈ module.methods, method.body.isSome →
      ∃ depths, method.stackDepths (signatureIn? modules) = .ok depths) {name : Member} {method : Method}
    (found : program.method name = .ok method) {args : List Value} (complete : args.length = method.argCount)
    {σ : Type} (hook : Hook σ) (hookState : σ) (limits : Limits) (memory : Memory) :
    (∀ frames, enterCall limits method args [] = .ok frames → ∀ count state,
      State.advance (State.step program hook limits) count ⟨frames, memory, hookState⟩ = .running state →
        state.Level program) ∧
    ∀ steps failure,
      ((⟨program, limits, memory, steps⟩ : Machine).invoke hook hookState name args).1 = .error failure →
      failure.isImbalance = false := by
  have whole := Program.link_modules linked
  have accepted : program.Accepted := by
    rintro other ⟨module, listed, declared⟩ present
    rw [whole] at listed ⊢
    exact accepted module listed other declared present
  have start : ∀ frames, enterCall limits method args [] = .ok frames →
      State.Level (σ := σ) program ⟨frames, memory, hookState⟩ := by
    intro frames entered
    have begun : Balanced _ (enterCall limits method args []) := balanced_enterCall complete
    rw [entered] at begun
    cases begun with
    | ok holds =>
      obtain ⟨present, rfl⟩ := holds
      exact .intro (accepted.enter (Program.declares_of_method found) present args) (.nil method) memory hookState
  refine ⟨fun frames entered count state reached => ?_, fun steps failure ended => ?_⟩
  · have level : (State.advance (State.step program hook limits) count ⟨frames, memory, hookState⟩).Level program :=
      (start frames entered).advance accepted count
    rw [reached] at level
    cases level with
    | running level => exact level
  · have entering : Balanced _ (enterCall limits method args []) := balanced_enterCall complete
    simp only [Machine.invoke, found] at ended
    cases entered : enterCall limits method args [] with
    | error refusal =>
      rw [entered] at entering ended
      cases ended
      cases entering with
      | error other => exact other
    | ok frames =>
      have ran (limit : UInt64) (left : Nat) :
          Harmless (State.run program hook limits limit left ⟨frames, memory, hookState⟩).1 :=
        (start frames entered).run accepted limit left
      replace ran := ran (limits.steps.getD 0xFFFFFFFFFFFFFFFF) (limits.steps.getD 0xFFFFFFFFFFFFFFFF).toNat
      rw [entered] at ended
      dsimp only at ended
      rw [ended] at ran
      cases ran with
      | error other => exact other

/-- A module with a method that calls itself. -/
def summingModule : Module :=
  { name := "Sum", optimized := false, debugInfo := .full, metadata := .empty, classes := [], sites := []
    methods := [
      { owner := "Sum", name := "upTo", isStatic := true, params := [.int32], locals := [], returns := some .int32
        attributes := []
        body := some (#[.loadArg 0, .jumpIfTrue 4, .loadInt32 0, .return, .loadArg 0, .loadArg 0, .loadInt32 1, .sub,
          .call ⟨"Sum", "upTo"⟩, .add, .return].map (⟨·, none⟩)) }] }

/-- Summing up to a number, with calls inside calls, never lacks a value on a stack. -/
theorem Program.stackDepths_sound_summing : ∃ program method frames,
    Program.link [summingModule] = .ok program ∧ program.method ⟨"Sum", "upTo"⟩ = .ok method ∧
    method.stackDepths (signatureIn? [summingModule]) =
      .ok #[some 0, some 1, some 0, some 1, some 0, some 1, some 2, some 3, some 2, some 2, some 1] ∧
    enterCall {} method [.int32 3] [] = .ok frames ∧
    (∀ count state, State.advance (State.step program passThrough {}) count
      ⟨frames, ⟨.empty, .empty⟩, ()⟩ = .running state →
      state.Level program) ∧
    ∀ steps failure,
      ((⟨program, {}, ⟨.empty, .empty⟩, steps⟩ : Machine).invoke passThrough () ⟨"Sum", "upTo"⟩ [.int32 3]).1 =
      .error failure → failure.isImbalance = false := by
  obtain ⟨program, linked, method, found, declared, complete⟩ :
      ∃ program, Program.link [summingModule] = .ok program ∧
      ∃ method, program.method ⟨"Sum", "upTo"⟩ = .ok method ∧ summingModule.methods = [method] ∧
        [Value.int32 3].length = method.argCount := ⟨_, rfl, _, rfl, rfl, rfl⟩
  have depths : method.stackDepths (signatureIn? [summingModule]) =
      .ok #[some 0, some 1, some 0, some 1, some 0, some 1, some 2, some 3, some 2, some 2, some 1] := by
    cases declared
    cbv
  obtain ⟨frames, entered⟩ : ∃ frames, enterCall {} method [.int32 3] [] = .ok frames := by
    cases declared
    exact ⟨_, rfl⟩
  have accepted : ∀ module ∈ [summingModule], ∀ method ∈ module.methods, method.body.isSome →
      ∃ depths, method.stackDepths (signatureIn? [summingModule]) = .ok depths := by
    intro module listed other member _
    rw [List.mem_singleton.1 listed, declared] at member
    rw [List.mem_singleton.1 member]
    exact ⟨_, depths⟩
  obtain ⟨level, harmless⟩ := Program.stackDepths_sound linked accepted found complete passThrough ()
    {} ⟨.empty, .empty⟩
  exact ⟨program, method, frames, linked, found, depths, entered, level frames entered, harmless⟩

end Faultline
