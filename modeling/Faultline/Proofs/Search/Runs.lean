import Faultline.Proofs.Recording.Alike
import Faultline.Search.Localizer

namespace Faultline

namespace TestSuite

/-- Every test of the suite is a method of its program. -/
def Sound (suite : TestSuite) : Prop :=
  ∀ method ∈ suite.tests, ∃ target, suite.machine.program.method method = .ok target

/-- What running tests leaves of a suite. -/
structure Same (suite suite' : TestSuite) : Prop where
  program : suite'.machine.program = suite.machine.program
  limits : suite'.machine.limits = suite.machine.limits
  tests : suite'.tests = suite.tests

theorem Same.refl (suite : TestSuite) : Same suite suite := ⟨rfl, rfl, rfl⟩

theorem Same.symm {suite suite' : TestSuite} (h : Same suite suite') : Same suite' suite :=
  ⟨h.program.symm, h.limits.symm, h.tests.symm⟩

theorem Same.trans {suite suite' suite'' : TestSuite} (h : Same suite suite')
    (h' : Same suite' suite'') : Same suite suite'' :=
  ⟨h'.program.trans h.program, h'.limits.trans h.limits, h'.tests.trans h.tests⟩

theorem Same.sound {suite suite' : TestSuite} (h : Same suite suite') (sound : suite.Sound) : suite'.Sound := by
  unfold Sound
  rw [h.tests, h.program]
  exact sound

/-- A suite that was loaded holds no object yet and knows its own tests. -/
theorem load_sound {modules : List Module} {testModule : String} {limits : Limits} {suite : TestSuite}
    (loaded : load modules testModule limits = .ok suite) : suite.Sound := by
  unfold load at loaded
  cases linked : Program.link modules with
  | error failure => rw [linked] at loaded; cases loaded
  | ok program =>
    rw [linked] at loaded
    simp only [Except.mapError, bind, Except.bind] at loaded
    split at loaded
    · cases loaded
    · rename_i module found
      cases loaded
      intro name listed
      obtain ⟨method, kept, rfl⟩ := List.mem_map.1 listed
      have declared := (List.mem_filter.1 kept).1
      have inProgram := List.mem_of_find?_eq_some found
      have here : module.method? method.member ≠ none := by
        rw [Module.method?, Ne, List.find?_eq_none]
        intro absent
        exact absent method declared (by simp)
      change ∃ target, program.method method.member = .ok target
      rw [Program.method_eq]
      cases search : program.modules.findSome? (·.method? method.member) with
      | some target => exact ⟨target, rfl⟩
      | none => exact absurd (List.findSome?_eq_none_iff.1 search module inProgram) here

end TestSuite

theorem TestSuite.verdict_eq {pairing : Nat → Nat → Prop} {result result' : Except RuntimeError (Option Value)}
    (same : Agree Eq (Option.Rel (Value.Alike pairing)) result result') :
    TestSuite.verdict result' = TestSuite.verdict result := by
  cases same with
  | ok => rfl
  | error same => rw [same]

namespace Session

/-- Sessions of one suite that are about to run a test in the same mode with the same overrides. -/
structure Beside (pairing : Nat → Nat → Prop) (session session' : Session TestSuite) : Prop where
  suite : TestSuite.Same session.state session'.state
  mode : session'.recorder.mode = session.recorder.mode
  sites : session'.recorder.sites = session.recorder.sites
  overrides : Table.Alike (Value.Alike pairing) session.recorder.overrides session'.recorder.overrides
  heaps : Heap.Paired pairing session.heap session'.heap

/-- What a run of a test leaves of a session. -/
structure After (test : String) (session later : Session TestSuite) : Prop where
  suite : TestSuite.Same session.state later.state
  recorder : Recorder.Since test session.recorder later.recorder

/-- Runs of one test in two sessions, with the same result and the same observations. -/
structure RanBeside (test : String) (pairing : Nat → Nat → Prop) (session session' : Session TestSuite)
    (grown : Nat → Nat → Prop) (ran ran' : TestResult × Session TestSuite) : Prop where
  result : ran'.1 = ran.1
  steps : test ∈ TestSuite.executor.tests session.state → ran'.2.state.machine.steps = ran.2.state.machine.steps
  beside : Session.Beside grown ran.2 ran'.2
  written : Profile.Alike grown (ran.2.recorder.written test) (ran'.2.recorder.written test)
  evolves : Heap.Evolves pairing session.heap session'.heap grown ran.2.heap ran'.2.heap
  after : After test session ran.2
  after' : After test session' ran'.2

/-- A run takes nothing from a session but the suite, the mode, the sites and the overrides. -/
theorem run_beside {pairing : Nat → Nat → Prop} {session session' : Session TestSuite} (sound : session.state.Sound)
    (h : Session.Beside pairing session session') (test : String) :
    ∃ grown, RanBeside test pairing session session' grown (session.run TestSuite.executor test)
      (session'.run TestSuite.executor test) := by
  obtain ⟨⟨⟨program, limits, memory, steps⟩, tests⟩, recorder, heap⟩ := session
  obtain ⟨⟨⟨program', limits', memory', steps'⟩, tests'⟩, recorder', heap'⟩ := session'
  obtain ⟨⟨sameProgram, sameLimits, sameTests⟩, mode, sites, overrides, heaps⟩ := h
  dsimp only at sameProgram sameLimits sameTests mode sites overrides heaps
  subst sameProgram sameLimits sameTests
  have start := Recorder.beside_beginTest test mode sites overrides
  simp only [Session.run, TestSuite.executor, TestSuite.run]
  cases found : tests'.find? (·.text = test) with
  | none =>
    refine ⟨pairing, rfl, ?_, ⟨⟨rfl, rfl, rfl⟩, start.mode, start.sites, start.overrides, heaps⟩,
      start.written, .refl, ⟨⟨rfl, rfl, rfl⟩, start.since.endTest⟩, ⟨rfl, rfl, rfl⟩, start.since'.endTest⟩
    intro known
    obtain ⟨method, listed, rfl⟩ := List.mem_map.1 known
    have absent := List.find?_eq_none.1 found method listed
    simp at absent
  | some method =>
    obtain ⟨target, declared⟩ := sound method (List.mem_of_find?_eq_some found)
    have memories : Memory.Paired pairing ⟨heap, .empty⟩ ⟨heap', .empty⟩ := ⟨heaps, .empty⟩
    obtain ⟨count, outcome, outcome', grown, invoked, invoked', ends⟩ :=
      Machine.invoke_beside limits' State.recorder_beside memories start declared steps steps'
    simp only [invoked, invoked']
    exact ⟨grown, TestSuite.verdict_eq ends.result, fun _ => rfl,
      ⟨⟨rfl, rfl, rfl⟩, ends.hooked.mode, ends.hooked.sites,
      ends.hooked.overrides, ends.memory.toPaired⟩, ends.hooked.written, ends.evolves, ⟨⟨rfl, rfl, rfl⟩,
      ends.hooked.since.endTest⟩,
      ⟨rfl, rfl, rfl⟩, ends.hooked.since'.endTest⟩

end Session

end Faultline
