import Faultline.Proofs.Recording.Instrumented
import Faultline.Proofs.Recording.Observed
import Faultline.Search.TestSuite

namespace Faultline

/-- How a recorded call ends where the plain one ends with `result`: in the same way, errors being related as
given, or with a failure that observing adds. -/
inductive EndsAlike (failures : RuntimeError → RuntimeError → Prop) (loads : Nat → List Load)
    (result : Except RuntimeError (Option Value)) : Except RuntimeError (Option Value) → Prop
  | same {result'} (alike : Agree failures (fun _ _ => True) result result') : EndsAlike failures loads result result'
  | inconclusive {failure : RuntimeError} (telling : failure.isInconclusive = true) :
      EndsAlike failures loads result (.error failure)
  | misfit {count : Nat} {load : Load} (completed : load ∈ loads count) (unfit : load.Misfit) :
      EndsAlike failures loads result (.error load.boxing)

section Ends

variable {program hooked : Program} {sites : Sites} {limits : Limits} {method : Member} {heap : Heap}

theorem RuntimeError.Moved.isInconclusive_eq {failure failure' : RuntimeError}
    (moved : RuntimeError.Moved program sites failure failure') :
    failure'.isInconclusive = failure.isInconclusive := by
  cases moved with
  | same => rfl
  | stackUnderflow => rfl
  | thrown => rfl

/-- Two ends that are alike stay so when the second is moved to the instrumented code. -/
theorem EndsAlike.moved {loads : Nat → List Load} {result result' result'' : Except RuntimeError (Option Value)}
    (h : EndsAlike Eq loads result result') (same : Agree (RuntimeError.Moved program sites) Eq result' result'') :
    EndsAlike (RuntimeError.Moved program sites) loads result result'' := by
  cases same with
  | ok _ =>
    cases h with
    | same alike =>
      cases alike with
      | ok => exact .same (.ok trivial)
  | @error failure failure' moved =>
    cases h with
    | same alike =>
      cases alike with
      | error equal => exact .same (.error (equal ▸ moved))
    | inconclusive telling => exact .inconclusive (moved.isInconclusive_eq.trans telling)
    | misfit completed unfit =>
      cases moved with
      | same => exact .misfit completed unfit

/-- A test that ends, and the same test being recorded. -/
theorem Program.observed_endsAlike {outcome : Outcome Unit} {outcome' : Outcome Recorder} {recorder : Recorder}
    (recording : recorder.mode = .recording)
    (ends : program.Ends limits (State.step program passThrough limits) (.ofTest method heap ()) outcome)
    (ends' : program.EndsObserved sites Recorder.hook limits (.ofTest method heap recorder) outcome') :
    EndsAlike Eq (program.loads limits sites (.ofTest method heap ())) outcome.result outcome'.result := by
  cases ends with
  | refused refusal =>
    cases ends' with
    | refused refusal' =>
      cases refusal.symm.trans refusal'
      exact .same (.error rfl)
    | ran entered => cases refusal.symm.trans entered
  | @ran frames result last entered halts =>
    cases ends' with
    | refused refusal => cases refusal.symm.trans entered
    | @ran frames' result' last' entered' halts' =>
      cases entered.symm.trans entered'
      obtain ⟨count, halted⟩ := halts
      obtain ⟨count', halted'⟩ := halts'
      have start : State.BesideRecording program (fun _ _ => False) ⟨frames, ⟨heap, .empty⟩, ()⟩
          ⟨frames, ⟨heap, .empty⟩, recorder⟩ :=
        ⟨Program.enter_beside entered, ⟨Heap.paired_none, .empty⟩, recording⟩
      -- both runs are over by the later of their ends
      have whole := start.advance limits sites (max count count')
      rw [State.advance_halted_mono halted (Nat.le_max_left ..),
        State.advance_halted_mono halted' (Nat.le_max_right ..), ← Program.loads_of_entered entered] at whole
      cases whole with
      | halted same => exact .same (same.mono (fun _ _ => id) fun _ _ _ => trivial)
      | inconclusive telling => exact .inconclusive telling
      | misfit completed unfit => exact .misfit completed unfit

theorem Program.Hooked.endsAlike (programs : Program.Hooked sites program hooked) {outcome : Outcome Unit}
    {outcome' : Outcome Recorder} {recorder : Recorder} (recording : recorder.mode = .recording)
    (ends : program.Ends limits (State.step program passThrough limits) (.ofTest method heap ()) outcome)
    (ends' : hooked.Ends limits (State.step hooked Recorder.hook limits) (.ofTest method heap recorder) outcome') :
    EndsAlike (RuntimeError.Moved program sites) (program.loads limits sites (.ofTest method heap ())) outcome.result
      outcome'.result := by
  obtain ⟨observed, endsObserved, moved⟩ := programs.ends_only ends'
  exact (Program.observed_endsAlike recording ends endsObserved).moved moved.result

/-- Recorder beginning a test goes on recording. -/
theorem Recorder.mode_beginTest (recorder : Recorder) (test : String) :
    (recorder.beginTest test).mode = recorder.mode := by
  unfold beginTest
  split <;> rfl

end Ends

section Suites

variable {sites : Sites}

theorem Method.Hooked.isTest_eq {sites : Nat → Option Site} {method hooked : Method}
    (h : Method.Hooked sites method hooked) :
    hooked.isTest = method.isTest := by
  have attributes : hooked.attributes = method.attributes := congrArg (·.attributes) h.declaration
  simp only [Method.isTest, Method.hasAttribute, h.isStatic_eq, h.params_eq, h.hasBody, attributes]

/-- A module has its tests with hook calls as well. -/
theorem Module.Hooked.tests {module hooked : Module} (h : Module.Hooked sites module hooked) :
    (hooked.methods.filter Method.isTest).map Method.member = (module.methods.filter Method.isTest).map
      Method.member := by
  have methods := h.methods
  generalize module.methods = originals at methods
  generalize hooked.methods = rewritten at methods
  induction methods with
  | nil => rfl
  | cons here _ ih =>
    rw [List.filter_cons, List.filter_cons, here.isTest_eq]
    split
    · rw [List.map_cons, List.map_cons, here.member_eq, ih]
    · exact ih

/-- The modules of one name correspond in the two programs. -/
theorem Program.Hooked.module? {program hooked : Program} (h : Program.Hooked sites program hooked) (name : String) :
    Option.Rel (Module.Hooked sites) (program.module? name) (hooked.module? name) := by
  unfold Program.Hooked at h
  unfold Program.module?
  generalize program.modules = originals at h
  generalize hooked.modules = rewritten at h
  induction h with
  | nil => exact .none
  | cons here _ ih =>
    rw [List.find?_cons, List.find?_cons, here.name]
    split
    · exact .some here
    · exact ih

/-- The suite that a named module of linked modules has. -/
def Program.suite (program : Program) (limits : Limits) (module : Module) : TestSuite :=
  ⟨.load program limits .empty, (module.methods.filter Method.isTest).map Method.member⟩

/-- A suite is loaded exactly when the program links and declares its module. -/
theorem TestSuite.load_eq_ok {modules : List Module} {name : String} {limits : Limits} {suite : TestSuite} :
    TestSuite.load modules name limits = .ok suite ↔
      ∃ program module, Program.link modules = .ok program ∧ program.module? name = some module ∧
        suite = program.suite limits module := by
  unfold TestSuite.load
  cases Program.link modules with
  | error failure => simp [Except.mapError, bind, Except.bind]
  | ok program =>
    simp only [Except.mapError, bind, Except.bind, Except.ok.injEq, exists_eq_left', exists_and_left]
    cases found : program.module? name with
    | none => simp
    | some module =>
      simp only [Option.some.injEq, exists_eq_left', eq_comm (a := suite), Program.suite, pure, Except.pure,
        Except.ok.injEq]

/-- The part of a run of a test that the machine has. -/
theorem TestSuite.run_eq {σ : Type} (hook : Hook σ) (suite : TestSuite) {test : String} {method : Member}
    (found : suite.tests.find? (·.text = test) = some method) (hookState : σ) (heap : Heap) :
    (suite.run hook test hookState heap).1 =
      verdict (({ suite.machine with memory := ⟨heap, .empty⟩ } : Machine).invoke hook hookState method []).1 := by
  unfold TestSuite.run
  simp only [found]

theorem TestSuite.verdict_of_isInconclusive {failure : RuntimeError} (telling : failure.isInconclusive = true) :
    verdict (.error failure) = .inconclusive failure.message := by
  cases failure with
  | stepLimit | stackOverflow | hook | hookResultType => rfl
  | _ => cases telling

theorem TestSuite.verdict_pass {result : Except RuntimeError (Option Value)} (passes : verdict result = .pass) :
    ∃ value, result = .ok value := by
  unfold verdict at passes
  split at passes
  · exact ⟨_, rfl⟩
  · cases passes
  · split at passes <;> cases passes

/-- An invocation whose verdict says something about the program has not been cut off. -/
theorem TestSuite.ends_of_verdict {σ : Type} {machine : Machine} {hook : Hook σ} {hookState : σ}
    {method : Member} {args : List Value}
    (telling : (verdict (machine.invoke hook hookState method args).1).isInconclusive = false) :
    ∃ memory hookState', machine.program.Ends machine.limits (State.step machine.program hook machine.limits)
      ⟨method, args, machine.memory, hookState⟩ ⟨(machine.invoke hook hookState method args).1, memory,
        hookState'⟩ := by
  refine ⟨_, _, Machine.invoke_ends_within rfl fun cut => ?_⟩
  rw [cut] at telling
  cases telling

/-- What a recorded test's verdict can be when the plain test ends with `result`. -/
theorem EndsAlike.verdict {failures : RuntimeError → RuntimeError → Prop} {loads : Nat → List Load}
    {result result' : Except RuntimeError (Option Value)} (h : EndsAlike failures loads result result') :
    (TestSuite.verdict result = .pass → TestSuite.verdict result' = .pass ∨
      (TestSuite.verdict result').isInconclusive ∨
      ∃ count, ∃ load ∈ loads count, load.Misfit ∧ TestSuite.verdict result' = .fail load.boxing.message) ∧
    (TestSuite.verdict result' = .pass → TestSuite.verdict result = .pass) := by
  cases h with
  | same alike =>
    cases alike with
    | ok => exact ⟨fun _ => Or.inl rfl, fun _ => rfl⟩
    | error =>
      refine ⟨fun passes => ?_, fun passes => ?_⟩
      · obtain ⟨_, answered⟩ := TestSuite.verdict_pass passes
        cases answered
      · obtain ⟨_, answered⟩ := TestSuite.verdict_pass passes
        cases answered
  | inconclusive telling =>
    rw [TestSuite.verdict_of_isInconclusive telling]
    exact ⟨fun _ => Or.inr (Or.inl rfl), fun passes => (nomatch passes)⟩
  | @misfit count load completed unfit =>
    exact ⟨fun _ => Or.inr (Or.inr ⟨count, load, completed, unfit, rfl⟩), fun passes => nomatch passes⟩

/-- The verdicts of a call of a test in the plain program, and in the program with hook calls while it is recorded. -/
theorem Program.Hooked.verdicts {program hooked : Program} (programs : Program.Hooked sites program hooked)
    (limits : Limits) (method : Member) (heap : Heap) {recorder : Recorder}
    (recording : recorder.mode = .recording) {verdict verdict' : TestResult}
    (plain : TestSuite.verdict
      (Machine.invoke ⟨program, limits, ⟨heap, .empty⟩, 0⟩ passThrough () method []).1 = verdict)
    (recorded : TestSuite.verdict
      (Machine.invoke ⟨hooked, limits, ⟨heap, .empty⟩, 0⟩ Recorder.hook recorder method []).1 =
      verdict') :
    (verdict = .pass → verdict' = .pass ∨ verdict'.isInconclusive ∨
      ∃ count, ∃ load ∈ program.loads limits sites (.ofTest method heap ()) count,
        load.Misfit ∧ verdict' = .fail load.boxing.message) ∧
    ∀ reason, verdict = .fail reason → verdict' ≠ .pass := by
  have alike : verdict.isInconclusive = false → verdict'.isInconclusive = false →
      EndsAlike (RuntimeError.Moved program sites) (program.loads limits sites (.ofTest method heap ()))
        (Machine.invoke ⟨program, limits, ⟨heap, .empty⟩, 0⟩ passThrough () method []).1
        (Machine.invoke ⟨hooked, limits, ⟨heap, .empty⟩, 0⟩ Recorder.hook recorder method []).1 := by
    intro telling telling'
    obtain ⟨_, _, ends⟩ := TestSuite.ends_of_verdict (plain ▸ telling)
    obtain ⟨_, _, ends'⟩ := TestSuite.ends_of_verdict (recorded ▸ telling')
    exact programs.endsAlike recording ends ends'
  constructor
  · intro passes
    by_cases telling : verdict'.isInconclusive = true
    · exact Or.inr (Or.inl telling)
    · exact recorded ▸ (alike (passes ▸ rfl) (Bool.not_eq_true _ ▸ telling)).verdict.1 (plain.trans passes)
  · intro reason fails passes
    have opposite := (alike (fails ▸ rfl) (passes ▸ rfl)).verdict.2 (recorded.trans passes)
    rw [plain, fails] at opposite
    cases opposite

/-- Recording an instrumented program does not turn the verdict of a test into the opposite, whatever the types of the
values that the program handles, up to one exception: a test that passes can fail by boxing the value of a load of a
primitive type where the program has a value of another type in the variable. -/
theorem TestSuite.run_instrumented {modules rewritten : List Module} {positions : List Nat}
    {first last : UInt32} {name : String} {limits : Limits} {suite : TestSuite}
    (loaded : TestSuite.load modules name limits = .ok suite) (once : positions.Nodup)
    (rewriting : instrumentAt (fieldTypeIn? modules) positions modules first = .ok (rewritten, last)) :
    ∃ suite', TestSuite.load rewritten name limits = .ok suite' ∧
      ∀ (test : String) (heap : Heap) (recorder : Recorder), recorder.mode = .recording →
        ((suite.run passThrough test () heap).1 = .pass →
          (suite'.run Recorder.hook test (recorder.beginTest test) heap).1 = .pass ∨
          (suite'.run Recorder.hook test (recorder.beginTest test) heap).1.isInconclusive ∨
          ∃ method ∈ suite.tests, method.text = test ∧ ∃ count,
            ∃ load ∈ suite.machine.program.loads limits (sitesAt modules positions first)
              (.ofTest method heap ()) count, load.Misfit ∧
              (suite'.run Recorder.hook test (recorder.beginTest test) heap).1 = .fail load.boxing.message) ∧
        ∀ reason, (suite.run passThrough test () heap).1 = .fail reason →
          (suite'.run Recorder.hook test (recorder.beginTest test) heap).1 ≠ .pass := by
  obtain ⟨program, module, linked, found, rfl⟩ := TestSuite.load_eq_ok.1 loaded
  obtain ⟨hooked, linked', programs⟩ := instrumentAt_links linked once rewriting
  have modulesHooked := programs.module? name
  rw [found] at modulesHooked
  generalize found' : hooked.module? name = present at modulesHooked
  cases modulesHooked with
  | @some _ module' here =>
    refine ⟨hooked.suite limits module', TestSuite.load_eq_ok.2 ⟨hooked, module', linked', found', rfl⟩, ?_⟩
    intro test heap recorder recording
    have sameTests : (hooked.suite limits module').tests = (program.suite limits module).tests := here.tests
    cases chosen : (program.suite limits module).tests.find? (·.text = test) with
    | none =>
      have unknown : (program.suite limits module).run passThrough test () heap =
          (.inconclusive s!"unknown test {test}", program.suite limits module, (), heap) := by
        unfold TestSuite.run
        simp only [chosen]
      rw [unknown]
      exact ⟨fun passes => (nomatch passes), fun _ fails => (nomatch fails)⟩
    | some method =>
      have recording' : (recorder.beginTest test).mode = .recording := (recorder.mode_beginTest test).trans recording
      have verdicts := programs.verdicts limits method heap recording' rfl rfl
      rw [run_eq passThrough _ chosen, run_eq Recorder.hook _ (sameTests ▸ chosen)]
      refine ⟨fun passes => ?_, verdicts.2⟩
      refine (verdicts.1 passes).imp id (Or.imp id fun misfit => ?_)
      exact ⟨method, List.mem_of_find?_eq_some chosen, by simpa using List.find?_some chosen, misfit⟩

/-- A module with one test, which reads a variable of a primitive type that holds a value of another one. -/
def mixingModule : Module :=
  { name := "Mixing", optimized := false, debugInfo := .full, metadata := .empty, classes := [], sites := []
    methods := [
      { owner := "Tests", name := "mixes", isStatic := true, params := [], locals := [.int32], returns := none
        attributes := ["Test"]
        body := some #[⟨.loadString "one", none⟩, ⟨.storeLocal 0, none⟩,
          ⟨.loadLocal 0, some ⟨"tests.src", 3, 3, 5, 9⟩⟩, ⟨.pop, none⟩, ⟨.return, none⟩] }] }

/-- The verdict does turn into the opposite where the interpreter lets the program store a value of another type. -/
theorem TestSuite.run_instrumented_mixing : ∃ suite rewritten last suite',
    TestSuite.load [mixingModule] "Mixing" {} = .ok suite ∧
    instrumentAt (fieldTypeIn? [mixingModule]) [0] [mixingModule] 0 = .ok (rewritten, last) ∧
    TestSuite.load rewritten "Mixing" {} = .ok suite' ∧
    (suite.run passThrough "Tests::mixes" () .empty).1 = .pass ∧
    (suite'.run Recorder.hook "Tests::mixes" ((Recorder.new (.ofModules rewritten)).beginTest "Tests::mixes")
      .empty).1 =
      .fail "type mismatch in box: string is not int32" :=
  ⟨_, _, _, _, rfl, rfl, rfl, rfl, by with_unfolding_all decide⟩

/-- The load that makes the difference: a string read from a local of type integer. -/
theorem TestSuite.run_instrumented_misfit : ∃ suite,
    TestSuite.load [mixingModule] "Mixing" {} = .ok suite ∧
    ∃ method ∈ suite.tests, method.text = "Tests::mixes" ∧ ∃ count,
      ∃ load ∈ suite.machine.program.loads {} (sitesAt [mixingModule] [0] 0) (.ofTest method .empty ()) count,
      load.Misfit := by
  obtain ⟨suite, loaded, passes⟩ : ∃ suite, TestSuite.load [mixingModule] "Mixing" {} = .ok suite ∧
      (suite.run passThrough "Tests::mixes" () .empty).1 = .pass := ⟨_, rfl, rfl⟩
  obtain ⟨rewritten, last, suite', rewriting, loaded', fails⟩ : ∃ rewritten last suite',
      instrumentAt (fieldTypeIn? [mixingModule]) [0] [mixingModule] 0 = .ok (rewritten, last) ∧
      TestSuite.load rewritten "Mixing" {} = .ok suite' ∧
      (suite'.run Recorder.hook "Tests::mixes"
        ((Recorder.new (.ofModules rewritten)).beginTest "Tests::mixes") .empty).1 =
        .fail "type mismatch in box: string is not int32" := ⟨_, _, _, rfl, rfl, by with_unfolding_all decide⟩
  obtain ⟨_, found, verdicts⟩ := run_instrumented loaded (List.nodup_singleton 0) rewriting
  cases loaded'.symm.trans found
  rcases (verdicts "Tests::mixes" .empty (.new (.ofModules rewritten)) rfl).1 passes with pass | inconclusive | misfit
  · rw [fails] at pass
    cases pass
  · rw [fails] at inconclusive
    cases inconclusive
  · obtain ⟨method, listed, named, count, load, completed, unfit, _⟩ := misfit
    exact ⟨suite, loaded, method, listed, named, count, load, completed, unfit⟩

end Suites

end Faultline
