import Faultline.Proofs.Search.Outcome
import Faultline.Proofs.Search.Verdicts

namespace Faultline

namespace TestSuite

/-- The test that is run in the place of one: the first that has its name. -/
def bearer (suite : TestSuite) (test : Member) : Member := (suite.tests.find? (·.text = test.text)).getD test

/-- How a test ends that is itself called with no static field stored, under a recorder that has seen nothing. -/
def outcome (suite : TestSuite) (test : Member) : TestResult :=
  verdict (suite.machine.reset.invoke Recorder.hook ((Recorder.new suite.sites).beginTest test.text) test []).1

variable {suite : TestSuite} {test : Member}

theorem find?_bearer (listed : test ∈ suite.tests) :
    suite.tests.find? (·.text = test.text) = some (suite.bearer test) := by
  unfold bearer
  cases found : suite.tests.find? (·.text = test.text) with
  | some first => rfl
  | none => exact absurd (List.find?_eq_none.1 found test listed) (by simp)

theorem text_bearer (listed : test ∈ suite.tests) : (suite.bearer test).text = test.text := by
  simpa using List.find?_some (find?_bearer listed)

/-- A test is run itself where no earlier one has its name. -/
theorem bearer_eq_self_iff (distinct : suite.tests.Nodup) {position : Nat}
    (here : suite.tests[position]? = some test) :
    suite.bearer test = test ↔
      ∀ (earlier : Nat) (other : Member), earlier < position → suite.tests[earlier]? = some other →
        other.text ≠ test.text := by
  obtain ⟨inside, atPosition⟩ := List.getElem?_eq_some_iff.1 here
  obtain ⟨_, first, found, atFirst, unnamed⟩ :=
    List.find?_eq_some_iff_getElem.1 (find?_bearer (List.mem_of_getElem? here))
  constructor
  · intro same earlier other before atEarlier
    have there : first = position := by
      rw [same, ← atPosition] at atFirst
      exact distinct.getElem_inj_iff.1 atFirst
    obtain ⟨insideEarlier, rfl⟩ := List.getElem?_eq_some_iff.1 atEarlier
    simpa using unnamed earlier (there ▸ before)
  · intro unshared
    rcases Nat.lt_trichotomy first position with before | there | behind
    · have named := text_bearer (List.mem_of_getElem? here)
      exact absurd named (unshared first _ before (List.getElem?_eq_some_iff.2 ⟨found, atFirst⟩))
    · subst there
      exact atFirst.symm.trans atPosition
    · have shares := unnamed position behind
      simp [atPosition] at shares

end TestSuite

namespace Session

/-- Calls a test itself with no static field stored, under its name. -/
def callTest (session : Session TestSuite) (test : Member) : TestResult × Session TestSuite :=
  let ⟨⟨machine, tests⟩, recorder, heap⟩ := session
  let (result, machine, recorder) :=
    { machine with memory := ⟨heap, .empty⟩ }.invoke Recorder.hook (recorder.beginTest test.text) test []
  (TestSuite.verdict result, ⟨⟨{ machine with memory := ⟨.empty, machine.memory.statics⟩ }, tests⟩, recorder.endTest,
    machine.memory.heap⟩)

/-- Calls tests one after the other. -/
def callTests : List Member → Session TestSuite → Baseline × Session TestSuite
  | [], session => ([], session)
  | test :: rest, session =>
    let (result, session) := session.callTest test
    let (later, session) := callTests rest session
    ((test.text, result) :: later, session)

/-- Running a name is calling the first test that has it. -/
theorem run_eq_callTest {session : Session TestSuite} {name : String} {test : Member}
    (found : session.state.tests.find? (·.text = name) = some test) :
    session.run TestSuite.executor name = session.callTest test := by
  obtain ⟨⟨machine, tests⟩, recorder, heap⟩ := session
  have named : test.text = name := by simpa using List.find?_some found
  dsimp only at found
  simp only [run, TestSuite.executor, TestSuite.run, found, callTest, named]

theorem tests_callTest (session : Session TestSuite) (test : Member) :
    (session.callTest test).2.state.tests = session.state.tests := rfl

/-- Running the names of tests is calling, for each of them, the first test with its name. -/
theorem runAll_eq_callTests {suite : TestSuite} {tests : List Member} (listed : tests ⊆ suite.tests)
    {session : Session TestSuite} (same : session.state.tests = suite.tests) :
    runAll TestSuite.executor (tests.map Member.text) session = callTests (tests.map suite.bearer) session := by
  induction tests generalizing session with
  | nil => rfl
  | cons test rest ih =>
    obtain ⟨here, later⟩ := List.cons_subset.1 listed
    have called : session.run TestSuite.executor test.text = session.callTest (suite.bearer test) :=
      run_eq_callTest (same ▸ TestSuite.find?_bearer here)
    simp only [List.map_cons, runAll, callTests, called, TestSuite.text_bearer here,
      ih later ((tests_callTest session _).trans same)]

/-- A test that is called in a session of its own. -/
theorem callTest_fresh {suite : TestSuite} (fresh : suite.machine.memory.heap = .empty) (test : Member) :
    (callTest ⟨suite, .new suite.sites, .empty⟩ test).1 = suite.outcome test := by
  obtain ⟨⟨program, limits, ⟨heap, statics⟩, steps⟩, tests⟩ := suite
  dsimp only at fresh
  subst fresh
  rfl

end Session

theorem Program.nodup_tests {program : Program} {name : String} {module : Module}
    (found : program.module? name = some module) (limits : Limits) : (program.suite limits module).tests.Nodup :=
  (nodup_of_declared program.nodup (List.mem_of_find?_eq_some found)).sublist (List.filter_sublist.map Method.member)

/-- A baseline without a filter has one run for every declared test, in the order of declaration, under the
test's name: a run of the first test that has the name, which ends as that test does when it is itself called
with no static field stored. So each test is itself run exactly once, unless an earlier one has the same name.
-/
theorem Localizer.baseline_runs_declared {modules : List Module} {program : Program} {testModule : String}
    {module : Module} (linked : Program.link modules = .ok program)
    (found : program.module? testModule = some module) (limits : Limits) :
    ∃ suite, TestSuite.load modules testModule limits = .ok suite ∧
      suite.tests = (module.methods.filter fun method =>
        method.isStatic && method.params.isEmpty && method.body.isSome && method.attributes.contains
          "Test").map Method.member ∧
      suite.tests.Nodup ∧
      (∀ (position : Nat) (test : Member), suite.tests[position]? = some test → (suite.bearer test = test ↔
        ∀ (earlier : Nat) (other : Member), earlier < position → suite.tests[earlier]? = some other →
          other.text ≠ test.text)) ∧
      ∀ heap (localizer : Localizer TestSuite), Session.Reached ⟨suite, .new suite.sites, heap⟩ localizer.session →
        (∀ name, localizer.selected name = true) →
        ∀ baseline ready, localizer.recordBaseline TestSuite.executor = (baseline, ready) →
          (baseline, ready.session) = Session.callTests (suite.tests.map suite.bearer)
          (localizer.session.inMode .recording) ∧
            baseline = suite.tests.map fun test => (test.text, suite.outcome (suite.bearer test)) := by
  have loaded : TestSuite.load modules testModule limits = .ok (program.suite limits module) :=
    TestSuite.load_eq_ok.2 ⟨program, module, linked, found, rfl⟩
  have distinct := Program.nodup_tests found limits
  have fresh : (program.suite limits module).machine.memory.heap = .empty := rfl
  refine ⟨program.suite limits module, loaded, rfl, distinct,
    fun _ _ here => TestSuite.bearer_eq_self_iff distinct here, ?_⟩
  generalize program.suite limits module = suite at loaded fresh
  intro heap localizer history unfiltered baseline ready recorded
  have sound := TestSuite.load_sound loaded
  have before := history.follows (Session.sound_fresh sound suite.sites heap)
  have all : (TestSuite.executor.tests localizer.session.state).filter localizer.selected = suite.tests.map
      Member.text := by
    rw [List.filter_eq_self.2 fun name _ => unfiltered name]
    exact congrArg (List.map Member.text) before.suite.tests
  have called : Session.runAll TestSuite.executor (suite.tests.map Member.text)
      (localizer.session.inMode .recording) =
      Session.callTests (suite.tests.map suite.bearer) (localizer.session.inMode .recording) :=
    Session.runAll_eq_callTests (List.Subset.refl _) before.suite.tests
  rw [recordBaseline, Session.recordBaseline_eq, before.sound.recordInOrder, all, called] at recorded
  cases recorded
  refine ⟨rfl, ?_⟩
  -- each run does as it does in a session of its own
  have alone := Session.runAll_alone (suite.tests.map Member.text)
    ⟨Session.sound_fresh sound suite.sites .empty, before.sound.inMode .recording, before.suite,
      before.sites, rfl⟩ rfl
  rw [called] at alone
  rw [alone.results, List.map_map]
  refine List.map_congr_left fun test listed => ?_
  rw [Function.comp_apply, Session.run_eq_callTest (TestSuite.find?_bearer listed), Session.callTest_fresh fresh]

/-- A module with two tests of one name, the second of which fails, and a third one with a name of its own. -/
def namesakeModule : Module :=
  { name := "Namesakes", optimized := false, debugInfo := .full, metadata := .empty, classes := [], sites := []
    methods := [
      { owner := "Tests", name := "Inner::runs", isStatic := true, params := [], locals := [], returns := none
        attributes := ["Test"], body := some #[⟨.return, none⟩] },
      { owner := "Tests::Inner", name := "runs", isStatic := true, params := [], locals := [], returns := none
        attributes := ["Test"], body := some #[⟨.loadString "inner", none⟩, ⟨.throw, none⟩] },
      { owner := "Tests", name := "fails", isStatic := true, params := [], locals := [], returns := none
        attributes := ["Test"], body := some #[⟨.loadString "outer", none⟩, ⟨.throw, none⟩] }] }

/-- The third test is run itself, in the third place. -/
theorem Localizer.baseline_runs_declared_own : ∃ program suite baseline ready,
    Program.link [namesakeModule] = .ok program ∧ program.module? "Namesakes" = some namesakeModule ∧
    TestSuite.load [namesakeModule] "Namesakes" {} = .ok suite ∧
    (⟨⟨suite, .new suite.sites, .empty⟩, fun _ => true, none⟩ : Localizer TestSuite).recordBaseline
      TestSuite.executor =
      (baseline, ready) ∧
    baseline[2]? = some ("Tests::fails", suite.outcome ⟨"Tests", "fails"⟩) := by
  obtain ⟨program, linked, found⟩ : ∃ program, Program.link [namesakeModule] = .ok program ∧
      program.module? "Namesakes" = some namesakeModule := ⟨_, rfl, rfl⟩
  obtain ⟨suite, loaded, tests, _, _, runs⟩ := baseline_runs_declared linked found {}
  obtain ⟨_, results⟩ := runs .empty ⟨⟨suite, .new suite.sites, .empty⟩, fun _ => true, none⟩ .start
    (fun _ => rfl) _ _ rfl
  have listed : suite.tests = [⟨"Tests", "Inner::runs"⟩, ⟨"Tests::Inner", "runs"⟩, ⟨"Tests", "fails"⟩] := tests
  have third : suite.tests[2]? = some ⟨"Tests", "fails"⟩ := by
    rw [listed]
    rfl
  have itself : suite.bearer ⟨"Tests", "fails"⟩ = ⟨"Tests", "fails"⟩ := by
    unfold TestSuite.bearer
    rw [listed]
    rfl
  refine ⟨program, suite, _, _, linked, found, loaded, rfl, ?_⟩
  refine (congrArg (·[2]?) results).trans ?_
  rw [List.getElem?_map, third, Option.map_some, itself]
  rfl

/-- Of two tests with one name the first is run twice and the second, which fails, not at all. -/
theorem Localizer.baseline_runs_namesake : ∃ suite ready,
    TestSuite.load [namesakeModule] "Namesakes" {} = .ok suite ∧
    suite.tests = [⟨"Tests", "Inner::runs"⟩, ⟨"Tests::Inner", "runs"⟩, ⟨"Tests", "fails"⟩] ∧
    suite.outcome ⟨"Tests::Inner", "runs"⟩ = .fail "inner" ∧
    (⟨⟨suite, .new suite.sites, .empty⟩, fun _ => true, none⟩ : Localizer TestSuite).recordBaseline
      TestSuite.executor =
      ([("Tests::Inner::runs", .pass), ("Tests::Inner::runs", .pass), ("Tests::fails", .fail "outer")], ready) :=
  ⟨_, _, rfl, rfl, rfl, rfl⟩

end Faultline
