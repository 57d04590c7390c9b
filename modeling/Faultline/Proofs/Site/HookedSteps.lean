import Faultline.Proofs.Site.HookedFrames
import Faultline.Proofs.Site.Observation

namespace Faultline

variable {σ : Type} {program hooked : Program} {sites : Sites} {hook : Hook σ} {limits : Limits}
  {frame frame' : Frame} {callers callers' : List Frame} {memory : Memory} {hookState : σ}

/-- A hook call of the program itself is made by both alike. -/
theorem observe_hooked (unobserved : sites frame.method frame.pointer = none)
    (ready : Frame.Ready program sites frame frame')
    (waiting : List.Forall₂ (Frame.Waiting program sites) callers callers') (type : ValueType) :
    Step.Hooked program sites
      (State.observe hook type { frame with pointer := frame.pointer + 1 } callers memory hookState)
      (State.observe hook type { frame' with pointer := frame'.pointer + 1 } callers' memory hookState) := by
  have popped := ready.fetched.fixed.popHookCall type
  unfold State.observe
  generalize Frame.popHookCall { frame with pointer := frame.pointer + 1 } type = result at popped
  generalize Frame.popHookCall { frame' with pointer := frame'.pointer + 1 } type = result' at popped
  cases popped with
  | error failing => exact .halted (.error failing) ..
  | @ok seen seen' same =>
    obtain ⟨⟨point, value⟩, rest⟩ := seen
    obtain ⟨⟨point', value'⟩, rest'⟩ := seen'
    obtain ⟨samePoint, sameValue, resting⟩ := same
    cases samePoint
    cases Value.Alike.eq_iff.1 sameValue
    simp only
    generalize hook point value hookState memory.heap = answered
    obtain ⟨answer, hookState', heap⟩ := answered
    cases answer with
    | error reason => exact .halted (.error (.same rfl)) ..
    | ok result =>
      simp only
      split
      · exact .running (.intro ((resting.ready unobserved ready.pointer).ready.push _) waiting ..)
      · exact .halted (.error (.same rfl)) ..

/-- What follows the fetch of an instruction that is not observed. -/
theorem dispatch_hooked (programs : Program.Hooked sites program hooked)
    (unobserved : sites frame.method frame.pointer = none) (ready : Frame.Ready program sites frame frame')
    (waiting : List.Forall₂ (Frame.Waiting program sites) callers callers') (opcode : Opcode) :
    Step.Hooked program sites
      (State.dispatch program hook limits opcode { frame with pointer := frame.pointer + 1 } callers memory hookState)
      (State.dispatch hooked hook limits (opcode.mapTarget (relocate (hookLength (sites frame.method))))
        { frame' with pointer := frame'.pointer + 1 } callers' memory hookState) := by
  by_cases shown : ∃ type, opcode = .callHook type
  · obtain ⟨type, rfl⟩ := shown
    exact observe_hooked unobserved ready waiting type
  · have dispatched : (Comparison.hooked program sites).Dispatched (relocate (hookLength (sites frame.method)))
        { frame with pointer := frame.pointer + 1 } { frame' with pointer := frame'.pointer + 1 } callers
        callers' memory memory
        hookState hookState
        (State.dispatch program hook limits opcode { frame with pointer := frame.pointer + 1 } callers
          memory hookState)
        (State.dispatch hooked hook limits (opcode.mapTarget (relocate (hookLength (sites frame.method))))
          { frame' with pointer := frame'.pointer + 1 } callers' memory hookState) :=
      Comparison.dispatch programs.corresponds (Memory.alike_self memory) ready.fetched waiting
        fun type same => shown ⟨type, same⟩
    generalize State.dispatch program hook limits opcode _ callers memory hookState = step at dispatched
    generalize State.dispatch hooked hook limits _ _ callers' memory hookState = step' at dispatched
    cases dispatched with
    | failed related => exact .halted (.error related) ..
    | ended related =>
      refine .halted (.ok ?_) ..
      cases related with
      | none => rfl
      | some alike => rw [Value.Alike.eq_iff.1 alike]
    | returned resumed waiting => exact .running (.intro resumed.ready waiting ..)
    | called related alike resting =>
      cases Value.Alike.forall₂_eq alike
      exact .running
        (.intro (Frame.enter_ready related.1 related.2) (.cons (resting.ready unobserved ready.pointer) waiting) ..)
    | @jumped next next' target resting =>
      obtain ⟨⟨declared, related, _⟩, ⟨sameMethod, _⟩, _⟩ := resting.place
      have ready : Frame.Ready program sites { next with pointer := target }
          { next' with pointer := relocate (hookLength (sites frame.method)) target } :=
        ⟨⟨resting.args, resting.locals, resting.stack⟩, declared, related, by simp only [sameMethod]⟩
      exact .running (.intro ready waiting ..)
    | @passed next next' effect effect' effects resting =>
      cases effects.eq
      exact .running
        (.intro ((resting.mono fun _ _ => effect.grow_eq).ready unobserved ready.pointer).ready waiting ..)

theorem Step.Hooked.answers {next : State σ → Step σ} {step : Step σ} {state' : State σ} (count : Nat)
    (h : Step.Hooked program sites step (State.advance next (count + 1) state')) :
    State.Answers next (State.Hooked program sites) (State.EndsMoved program sites) state' step := by
  generalize taken : State.advance next (count + 1) state' = step' at h
  cases h with
  | running related => exact ⟨count, _, taken, related⟩
  | halted same frames frames' memory hookState =>
    exact ⟨_, ⟨frames', memory, hookState⟩, ⟨count + 1, taken⟩, same, rfl, rfl⟩

/-- Showing the same value to the hook leads to the same, and past the instructions behind the load. -/
theorem showTop_hooked {site : Site} {value : Value} {rest : List Value} {count : Nat}
    (stack : frame.stack = value :: rest) (stack' : frame'.stack = value :: rest)
    (past : ∀ stack,
      Frame.Ready program sites { frame with stack } { frame' with stack, pointer := frame'.pointer + count })
    (waiting : List.Forall₂ (Frame.Waiting program sites) callers callers') {step' : Step σ}
    (skips : Step.Skips count (State.showTop hook site ⟨frame' :: callers', memory, hookState⟩) step') :
    Step.Hooked program sites (State.showTop hook site ⟨frame :: callers, memory, hookState⟩) step' := by
  simp only [State.showTop, stack, stack'] at skips ⊢
  split at skips
  · rename_i unfit
    rw [if_pos unfit]
    cases skips
    exact .halted (.error (.same rfl)) ..
  · rename_i fit
    rw [if_neg fit]
    simp only [State.consult] at skips ⊢
    generalize hook _ value hookState memory.heap = answered at skips ⊢
    obtain ⟨answer, hookState', heap⟩ := answered
    cases answer with
    | error reason =>
      cases skips
      exact .halted (.error (.same rfl)) ..
    | ok result =>
      by_cases answered : result.isAssignable site.type
      · simp only [if_pos answered] at skips ⊢
        cases skips
        exact .running (.intro (past (result :: rest)) waiting ..)
      · simp only [if_neg answered] at skips ⊢
        cases skips
        exact .halted (.error (.same rfl)) ..

/-- What is observed pushes a value and does nothing else. -/
theorem Frame.execute_observable {opcode : Opcode} {done : Frame × Memory.Effect} (observable : opcode.isObservable)
    (executed : frame.execute program memory opcode = .ok done) :
    ∃ value rest, done = ({ frame with stack := value :: rest }, .none) := by
  have pushed : ∀ {value : Except RuntimeError Value},
      (value >>= fun value => .ok (frame.push value, Memory.Effect.none)) = .ok done →
      ∃ value rest, done = ({ frame with stack := value :: rest }, .none) := by
    rintro (failure | value) executed
    · cases executed
    · cases executed
      exact ⟨value, frame.stack, rfl⟩
  cases opcode with
  | loadLocal slot => exact pushed executed
  | loadArg slot => exact pushed executed
  | loadStaticField field => exact pushed executed
  | loadField field =>
    change (frame.unary (memory.heap.loadField · field) >>= fun moved => .ok (moved, Memory.Effect.none)) =
      .ok done at executed
    unfold Frame.unary Frame.pop at executed
    cases stack : frame.stack with
    | nil =>
      simp only [stack] at executed
      cases executed
    | cons target rest =>
      simp only [stack, bind, Except.bind] at executed
      cases loaded : memory.heap.loadField target field with
      | error failure =>
        simp only [loaded] at executed
        cases executed
      | ok value =>
        simp only [loaded] at executed
        cases executed
        exact ⟨value, rest, rfl⟩
  | _ => cases observable

theorem Frame.Ready.fetch (ready : Frame.Ready program sites frame frame') :
    frame'.method.code[frame'.pointer]? =
      frame.method.code[frame.pointer]?.map (·.mapTarget (relocate (hookLength (sites frame.method)))) := by
  rw [ready.pointer, ready.hooked.moved]

/-- A load that is a site and the instructions behind it do what the load does with its value shown to the hook. -/
theorem observed_advance (programs : Program.Hooked sites program hooked) {site : Site}
    (observed : sites frame.method frame.pointer = some site) (ready : Frame.Ready program sites frame frame')
    (waiting : List.Forall₂ (Frame.Waiting program sites) callers callers') :
    Step.Hooked program sites
      ((State.step program hook limits ⟨frame :: callers, memory, hookState⟩).andThen (State.showTop hook site))
      (State.advance (State.step hooked hook limits) (site.hookCode.length + 1)
        ⟨frame' :: callers', memory, hookState⟩) := by
  obtain ⟨fits, instruction, fetched, observable⟩ := ready.hooked.observable _ _ observed
  have unjumping := Opcode.target?_of_isObservable observable
  have own := Opcode.isLocal_of_isObservable observable
  have fetched' : frame'.method.code[frame'.pointer]? = some instruction := by
    rw [ready.fetch, fetched, Option.map_some, Instruction.mapTarget, Opcode.mapTarget_of_target?_none _ unjumping]
  rw [State.advance, State.step_of_fetched fetched, State.step_of_fetched fetched', State.dispatch_of_isLocal own,
    State.dispatch_of_isLocal own]
  have executed := ready.fetched.fixed.execute programs.sameClasses (Memory.alike_self memory) unjumping
  have pushed : ∀ done,
      Frame.execute program memory instruction.opcode { frame with pointer := frame.pointer + 1 } = .ok done →
      ∃ value rest, done = ({ frame with pointer := frame.pointer + 1, stack := value :: rest }, .none) :=
    fun done => Frame.execute_observable observable
  generalize Frame.execute program memory instruction.opcode _ = result at executed pushed
  generalize Frame.execute hooked memory instruction.opcode _ = result' at executed
  cases executed with
  | error failing => exact .halted (.error failing) ..
  | @ok done done' same =>
    obtain ⟨next, effect⟩ := done
    obtain ⟨next', effect'⟩ := done'
    obtain ⟨sameEffect, resting⟩ := same
    obtain ⟨value, rest, here⟩ := pushed _ rfl
    obtain ⟨stack, rfl⟩ : next.stack = value :: rest ∧ effect = .none := by
      rw [Prod.mk.injEq] at here
      exact ⟨here.1 ▸ rfl, here.2⟩
    cases sameEffect.eq
    have stack' : next'.stack = value :: rest := (Value.Alike.forall₂_eq resting.stack).trans stack
    obtain ⟨⟨declared, related, _⟩, ⟨sameMethod, samePointer⟩, sameMethod', samePointer'⟩ := resting.place
    have placed : HoldsAt next'.method.code next'.pointer site.hookCode := by
      intro offset within
      rw [sameMethod', samePointer', ready.pointer]
      exact ready.hooked.called _ _ observed offset within
    have length : hookLength (sites frame.method) frame.pointer = site.hookCode.length := by
      rw [hookLength, observed, Option.elim_some, Site.length_hookCode]
    have past : ∀ stack, Frame.Ready program sites { next with stack }
        { next' with stack, pointer := next'.pointer + site.hookCode.length } := by
      intro stack
      refine ⟨⟨resting.args, resting.locals, List.forall₂_same.2 fun _ _ => Value.Alike.eq_iff.2 rfl⟩,
        declared, related, ?_⟩
      dsimp only at sameMethod samePointer samePointer' ⊢
      rw [sameMethod, samePointer, samePointer', ready.pointer, relocate_succ, length]
    exact showTop_hooked stack stack' past waiting (State.advance_hookCode fits placed stack')

/-- A step that observes nothing is the same on both sides. -/
theorem unobserved_step (programs : Program.Hooked sites program hooked)
    (unobserved : sites frame.method frame.pointer = none) (ready : Frame.Ready program sites frame frame')
    (waiting : List.Forall₂ (Frame.Waiting program sites) callers callers') :
    Step.Hooked program sites (State.step program hook limits ⟨frame :: callers, memory, hookState⟩)
      (State.step hooked hook limits ⟨frame' :: callers', memory, hookState⟩) := by
  cases fetched : frame.method.code[frame.pointer]? with
  | none =>
    rw [State.step_of_fellOff fetched, State.step_of_fellOff (by rw [ready.fetch, fetched]; rfl),
      ready.hooked.qualifiedName_eq]
    exact .halted (.error (.same rfl)) ..
  | some instruction =>
    rw [State.step_of_fetched fetched, State.step_of_fetched (ready.fetch.trans (congrArg _ fetched))]
    exact dispatch_hooked programs unobserved ready waiting instruction.opcode

/-- Every step of a program that shows its sites to the hook is answered by the program with hook calls. -/
theorem step_answered (programs : Program.Hooked sites program hooked) {state state' : State σ}
    (related : State.Hooked program sites state state') :
    State.Answers (State.step hooked hook limits) (State.Hooked program sites) (State.EndsMoved program sites) state'
      (State.watched (State.step program hook limits) sites (State.showTop hook) state) := by
  obtain ⟨ready, waiting, memory, hookState⟩ := related
  rename_i frame frame' callers callers'
  simp only [State.watched]
  cases observed : sites frame.method frame.pointer with
  | some site => exact Step.Hooked.answers site.hookCode.length (observed_advance programs observed ready waiting)
  | none =>
    apply Step.Hooked.answers 0
    rw [State.advance_one]
    exact unobserved_step programs observed ready waiting

end Faultline
