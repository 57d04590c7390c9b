import Faultline.Proofs.Recording.HookCalls
import Faultline.Proofs.Search.Separation

namespace Faultline

open Relation (ReflTransGen)

/-- A value that a program shows to the recorder, with the objects as they are then. -/
structure Showing where
  point : HookPoint
  value : Value
  heap : Heap

variable {ε κ : Type}

/-- Whether the runs of a process change the recorder only by showing it a value that they have hold of.
`shows` says what a run may be about to show. -/
structure Process.Tells (process : Process ε κ) (holds : (Nat → Prop) → κ → Prop)
    (shows : κ → HookPoint → Value → Prop) : Prop where
  step : ∀ {run later}, process.step run later → process.recorder later = process.recorder run ∨
    ∃ point value, shows run point value ∧
    process.recorder later = (Recorder.hook point value (process.recorder run) (process.heap run)).2.1 ∧
    process.heap later = (Recorder.hook point value (process.recorder run) (process.heap run)).2.2
  within : ∀ {own run point value}, holds own run → (process.heap run).Closed own → shows run point value →
    value.Within own

/-- A run so far, with the values that it has shown to the recorder and that this has accepted. -/
inductive Process.Course (process : Process ε κ) (shows : κ → HookPoint → Value → Prop)
    (start : κ) : List Showing → κ → Prop
  | start : Course process shows start [] start
  | silent {shown : List Showing} {run later : κ} (before : Course process shows start shown run)
      (step : process.step run later)
      (same : process.recorder later = process.recorder run) : Course process shows start shown later
  | shows {shown : List Showing} {run later : κ} {point : HookPoint} {value : Value}
      (before : Course process shows start shown run)
      (step : process.step run later) (showing : shows run point value)
      (accepted : (process.recorder run).Accepts point value)
      (recorder : process.recorder later = (Recorder.hook point value (process.recorder run) (process.heap run)).2.1)
      (heap : process.heap later = (Recorder.hook point value (process.recorder run) (process.heap run)).2.2) :
      Course process shows start (shown ++ [⟨point, value, process.heap run⟩]) later

/-- A run of a test, from one session to the next. -/
def Process.Ran (process : Process ε κ) (shows : κ → HookPoint → Value → Prop) (test : String) (session : Session ε)
    (shown : List Showing) (later : Session ε) : Prop :=
  ∃ run result state, process.ends run result state ∧
    later = ⟨state, (process.recorder run).endTest, process.heap run⟩ ∧
    process.Course shows (process.start test session.state (session.recorder.beginTest test) session.heap) shown run

/-- Runs of tests one after the other, with what each of them has shown. -/
inductive Process.RanAll (process : Process ε κ) (shows : κ → HookPoint → Value → Prop) :
    Session ε → List (String × List Showing) → Session ε → Prop
  | nil {session : Session ε} : RanAll process shows session [] session
  | cons {session between later : Session ε} {test : String} {shown : List Showing}
      {rest : List (String × List Showing)}
      (first : process.Ran shows test session shown between) (others : RanAll process shows between rest later) :
      RanAll process shows session ((test, shown) :: rest) later

section Runs

variable {process : Process ε κ} {holds : (Nat → Prop) → κ → Prop} {shows : κ → HookPoint → Value → Prop}
  {start run later : κ} {shown : List Showing}

/-- A step shows a value that is accepted, or else the recorder stays as it is. -/
theorem Process.Tells.course_step (tells : process.Tells holds shows) (before : process.Course shows start shown run)
    (step : process.step run later) : ∃ more, process.Course shows start (shown ++ more) later := by
  rcases tells.step step with same | ⟨point, value, showing, recorder, heap⟩
  · exact ⟨[], (List.append_nil shown).symm ▸ before.silent step same⟩
  · by_cases accepted : (process.recorder run).Accepts point value
    · exact ⟨_, before.shows step showing accepted recorder heap⟩
    · obtain ⟨_, refused⟩ := Recorder.hook_of_not_accepts accepted (process.heap run)
      rw [refused] at recorder
      exact ⟨[], (List.append_nil shown).symm ▸ before.silent step recorder⟩

theorem Process.Tells.course (tells : process.Tells holds shows) (steps : ReflTransGen process.step start run) :
    ∃ shown, process.Course shows start shown run := by
  induction steps with
  | refl => exact ⟨[], .start⟩
  | tail _ step ih =>
    obtain ⟨shown, before⟩ := ih
    obtain ⟨more, course⟩ := tells.course_step before step
    exact ⟨_, course⟩

theorem Process.Course.steps (course : process.Course shows start shown run) :
    ReflTransGen process.step start run := by
  induction course with
  | start => exact .refl
  | silent _ step _ ih | shows _ step _ _ _ _ ih => exact ih.tail step

/-- Each value that is shown makes one more observation. -/
theorem Process.Course.length_written {test : String} (testing : (process.recorder start).current = some test)
    (course : process.Course shows start shown run) : (process.recorder run).current = some test ∧
      ((process.recorder run).written test).latest.length =
        ((process.recorder start).written test).latest.length + shown.length := by
  induction course with
  | start => exact ⟨testing, rfl⟩
  | silent _ _ same ih => rwa [same]
  | @shows _ run _ _ _ _ _ _ accepted recorder _ ih =>
    obtain ⟨current, length⟩ := ih
    obtain ⟨_, running, _, called⟩ := Recorder.hook_of_accepts accepted (process.heap run)
    rw [current, Option.some.injEq] at running
    subst running
    rw [recorder, called]
    refine ⟨(Recorder.current_keep ..).trans current, ?_⟩
    rw [Recorder.written_keep, List.length_append, ← Nat.add_assoc, ← length]
    rfl

/-- No hook call has any other effect on the recorder than to be observed. -/
theorem Process.Hooks.hooked (hooks : process.Hooks) (steps : ReflTransGen process.step start run) :
    (process.recorder start).Hooked (process.recorder run) := by
  induction steps with
  | refl => exact .refl _
  | tail _ step ih => exact ih.trans (hooks.step _ _ step)

variable {executor : Executor ε}

/-- The runs of a baseline show something, each for itself. -/
theorem Process.Performs.ranAll (performs : process.Performs executor) (tells : process.Tells holds shows)
    (tests : List String) (session : Session ε) :
    ∃ shown, shown.map (·.1) = tests ∧
    process.RanAll shows session shown (Session.runAll executor tests session).2 := by
  induction tests generalizing session with
  | nil => exact ⟨[], rfl, .nil⟩
  | cons test rest ih =>
    obtain ⟨run, steps, result, after, ended, ran⟩ :=
      performs test session.state (session.recorder.beginTest test) session.heap
    obtain ⟨shown, course⟩ := tells.course steps
    have once : session.run executor test = (result, ⟨after, (process.recorder run).endTest, process.heap run⟩) := by
      simp only [Session.run, ran]
    obtain ⟨others, names, later⟩ := ih ⟨after, (process.recorder run).endTest, process.heap run⟩
    refine ⟨(test, shown) :: others, congrArg (test :: ·) names, ?_⟩
    simp only [Session.runAll, once]
    exact .cons ⟨run, result, after, ended, rfl, course⟩ later

end Runs

/-- What a run is after a number of instructions. -/
def TestSuite.Execution.after? (run : Execution) : Nat → Option Execution
  | 0 => some run
  | count + 1 => run.next?.bind (after? · count)

/-- The computed steps of a run are steps of its process. -/
theorem TestSuite.Execution.steps_of_after? {run later : Execution} (count : Nat)
    (goes : run.after? count = some later) :
    ReflTransGen process.step run later := by
  induction count generalizing run with
  | zero =>
    cases goes
    exact .refl
  | succ count ih =>
    obtain ⟨next, step, goes⟩ := Option.bind_eq_some_iff.1 goes
    exact .head step (ih goes)

/-- Whether a run is about to show a value to the recorder. -/
def TestSuite.Execution.Shows (run : Execution) (point : HookPoint) (value : Value) : Prop :=
  ∃ suite left state, run = .running suite (left + 1) state ∧ state.Shows point value

def TestSuite.Execution.shown? : Execution → Option (HookPoint × Value)
  | running _ (_ + 1) state => state.shown?
  | _ => none

theorem TestSuite.Execution.shows_of_shown? {run : Execution} {point : HookPoint} {value : Value}
    (shown : run.shown? = some (point, value)) : run.Shows point value := by
  match run, shown with
  | running suite (left + 1) state, shown => exact ⟨suite, left, state, rfl, State.shown?_eq_some.1 shown⟩

/-- What a run shows is told by its next state. -/
theorem TestSuite.process_tells : process.Tells (fun own run => run.Owned own) Execution.Shows where
  step := by
    intro run later next
    match run, next with
    | .running suite 0 state, next =>
      cases next
      exact Or.inl rfl
    | .running suite (left + 1) state, next =>
      rcases Execution.next?_cases next with ⟨_, rfl⟩ | ⟨recorder, heap, _⟩
      · exact Or.inl rfl
      · dsimp only [process]
        rw [recorder, heap]
        rcases State.step_hooked Recorder.hook state with same | ⟨point, value, shows⟩
        · exact Or.inl same
        · exact Or.inr ⟨point, value, ⟨suite, left, state, rfl, shows⟩, State.step_after_shows _ _ _ shows⟩
  within := by
    rintro own _ point value owned _ ⟨suite, left, state, rfl, shows⟩
    exact State.Owned.shows owned shows

/-- An executor that does nothing but to create, to change and to show what it has come by shows only that. -/
theorem Executor.process_tells (executor : Executor ε) (held : ε → Value → Prop) :
    (executor.process held).Tells (fun own run => ∀ value, run.scene.held value → value.Within own)
      fun run _ value => run.scene.Knows value where
  step := by
    rintro run _ ⟨scene, move, rfl⟩
    cases move with
    | calls point known => exact Or.inr ⟨point, _, known, rfl, rfl⟩
    | _ => exact Or.inl rfl
  within within closed known := known.within closed within

end Faultline
