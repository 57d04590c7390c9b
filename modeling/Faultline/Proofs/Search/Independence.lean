import Faultline.Proofs.Search.Baselines
import Faultline.Proofs.Search.Reference

namespace Faultline

namespace Session

variable {session : Session TestSuite}

/-- A second search finds what the first one found. -/
theorem search_twice (sound : session.Sound) (baseline : Baseline) :
    ((session.search TestSuite.executor baseline).2.search TestSuite.executor baseline).1 =
      (session.search TestSuite.executor baseline).1 := by
  have base := sound.inMode .replay
  have judges : Judges (session.inMode .replay) fun test site value =>
      ((session.inMode .replay).trial TestSuite.executor site test value).1 := by
    intro later h test site value held _
    exact (((Follows.refl base).peers h.toFollows h.mode).trial_result (held.sameContent h.heap) site test)
  obtain ⟨found, last, tried, left⟩ := search_expected judges base rfl baseline (.refl base)
  obtain ⟨foundAgain, _⟩ := search_expected judges base rfl baseline (tried.resume rfl)
  rw [left, found, foundAgain]

end Session

/-- Test runs do not interfere. Whatever ran before, a test in a given mode with a given override, or none,
does the same and sees the same. So it does not matter for a baseline in which order the tests are run, and a
second search finds what the first one found. -/
theorem Session.runs_independent {modules : List Module} {testModule : String} {limits : Limits} {suite : TestSuite}
    (loaded : TestSuite.load modules testModule limits = .ok suite) {sites : SiteTable} {heap : Heap}
    {origin session session' : Session TestSuite} (before : Reached ⟨suite, .new sites, heap⟩ origin)
    (history : Reached origin session) (history' : Reached origin session') :
    (∀ mode, ∀ test ∈ TestSuite.executor.tests suite,
      SameRun test ((session.inMode mode).run TestSuite.executor test)
        ((session'.inMode mode).run TestSuite.executor test)) ∧
    (∀ mode site value value', Heap.SameContent session.heap value session'.heap value' → ∀ test,
      ((session'.inMode mode).trial TestSuite.executor site test value').1 =
          ((session.inMode mode).trial TestSuite.executor site test value).1 ∧
        (sites.Takes site value → test ∈ TestSuite.executor.tests suite →
          SameRun test ((session.inMode mode).trial TestSuite.executor site test value)
            ((session'.inMode mode).trial TestSuite.executor site test value'))) ∧
    (∀ value, origin.Recorded value → Heap.SameContent session.heap value session'.heap value) ∧
    (∀ order order', let ran := session.recordInOrder TestSuite.executor order
      let ran' := session'.recordInOrder TestSuite.executor order'
      (∃ result : String → TestResult, ran.1 = order.map (fun test => (test, result test)) ∧
        ran'.1 = order'.map fun test => (test, result test)) ∧
      ∀ test ∈ order, test ∈ order' → ∃ profile profile' pairing, ran.2.recorder.profiles.get? test = some profile ∧
        ran'.2.recorder.profiles.get? test = some profile' ∧ Heap.Paired pairing ran.2.heap ran'.2.heap ∧
        Profile.Alike pairing profile profile') ∧
    ∀ localizer : Localizer TestSuite, localizer.session = session → ∀ outcome later,
      localizer.search TestSuite.executor = .ok (outcome, later) →
        ∃ last, later.search TestSuite.executor = .ok (outcome, last) := by
  have begun := before.follows (sound_fresh (TestSuite.load_sound loaded) sites heap)
  have first := history.follows begun.sound
  have second := history'.follows begun.sound
  have tests : TestSuite.executor.tests session.state = TestSuite.executor.tests suite := by
    simp only [TestSuite.executor, first.suite.tests, begun.suite.tests]
  have known : session.recorder.sites = sites := first.sites.trans begun.sites
  have peers : ∀ mode, Peers (session.inMode mode) (session'.inMode mode) := fun mode =>
    (first.trans (first.sound.follows_inMode mode)).peers (second.trans (second.sound.follows_inMode mode)) rfl
  refine ⟨?_, ?_, ?_, ?_, ?_⟩
  · intro mode test listed
    obtain ⟨grown, ran⟩ := (peers mode).run test
    exact ran.sameRun (tests ▸ listed)
  · intro mode site value value' same test
    refine ⟨(peers mode).trial_result same site test, ?_⟩
    intro takes listed
    obtain ⟨grown, ran⟩ := (peers mode).trial same (known ▸ takes) test
    exact ran.sameRun (tests ▸ listed)
  · intro value recorded
    exact first.sameContent second (begun.sound.recorded recorded)
  · intro order order'
    rw [first.sound.recordInOrder, second.sound.recordInOrder]
    exact (runAll_alone order (.refl (peers .recording).sound) rfl).agree (runAll_alone order' (peers .recording) rfl)
  · rintro ⟨_, selected, ready⟩ rfl outcome later searched
    cases ready with
    | none => cases searched
    | some baseline =>
      rw [Localizer.search_of_baseline _ rfl] at searched
      cases searched
      exact ⟨_, by rw [Localizer.search_of_baseline _ rfl, search_twice first.sound]⟩

/-- A test that has run before, in another mode and without an override, is replayed as if it had not. -/
theorem Session.runs_independent_guarded : ∃ suite session,
    TestSuite.load [guardedModule] "Guarded" { steps := some 50 } = .ok suite ∧
    session = (Session.run TestSuite.executor (⟨suite, .new suite.sites, .empty⟩ : Session TestSuite)
      "Tests::fails").2 ∧
    SameRun "Tests::fails"
      ((Session.inMode ⟨suite, .new suite.sites, .empty⟩ .replay).trial TestSuite.executor 7 "Tests::fails"
        (.int32 1))
      ((session.inMode .replay).trial TestSuite.executor 7 "Tests::fails" (.int32 1)) := by
  obtain ⟨suite, loaded, known, listed⟩ : ∃ suite,
      TestSuite.load [guardedModule] "Guarded" { steps := some 50 } = .ok suite ∧
      suite.sites.get? 7 = some ⟨7, .int32, ⟨"tests", 3, 3, 5, 9⟩, "Tests::check"⟩ ∧
      TestSuite.executor.tests suite = ["Tests::passes", "Tests::fails"] := ⟨_, rfl, rfl, rfl⟩
  have begun : Reached ⟨suite, .new suite.sites, .empty⟩ ⟨suite, .new suite.sites, .empty⟩ := .start
  obtain ⟨_, trials, _⟩ := Session.runs_independent loaded begun .start (.run "Tests::fails" .start)
  obtain ⟨_, same⟩ := trials .replay 7 (.int32 1) (.int32 1) ⟨_, Heap.paired_none, .int32 1⟩ "Tests::fails"
  exact ⟨suite, _, loaded, rfl, same ⟨_, known, rfl⟩ (listed ▸ by decide)⟩

end Faultline
