import Faultline.Proofs.Search.Baselines
import Faultline.Proofs.Search.Reference

namespace Faultline

/-- A suite just loaded, with the objects of a session at hand and ready to replay tests. -/
def TestSuite.alone (suite : TestSuite) (sites : SiteTable) (heap : Heap) : Session TestSuite :=
  Session.inMode ⟨suite, .new sites, heap⟩ .replay

theorem TestSuite.replayed_eq {suite : TestSuite} {sites : SiteTable} {heap : Heap} {site : UInt32} {value : Value}
    (takes : sites.Takes site value) (test : String) :
    suite.replayed sites heap test site value =
      ((suite.alone sites heap).trial TestSuite.executor site test value).1 := by
  have here : (suite.alone sites heap).recorder.sites.Takes site value := takes
  rw [Session.trial_of_takes _ here]
  rfl

namespace Session

variable {suite : TestSuite} {session : Session TestSuite}

/-- Trials that follow a session have the results that they have alone. -/
theorem judges_replayed (sound : suite.Sound) (same : TestSuite.Same suite session.state) :
    (session.inMode .replay).Judges (suite.replayed session.recorder.sites session.heap) := by
  intro later tried test site value held takes
  have alone := (sound_fresh sound session.recorder.sites session.heap).inMode .replay
  have peers : Peers (suite.alone session.recorder.sites session.heap) later :=
    ⟨alone, tried.sound, same.trans tried.suite, tried.sites, tried.mode⟩
  exact (peers.trial_result (held.sameContent tried.heap) site test).trans (TestSuite.replayed_eq takes test).symm

theorem mem_subjects {baseline : Baseline} {subject : Subject} : subject ∈ session.subjects baseline ↔
    ∃ test ∈ baseline.failing, ∃ profile, session.recorder.profiles.get? test = some profile ∧ ∃ site ∈ profile.sites,
      session.recorder.sites.subject? (session.baselineProfiles baseline) profile site = some subject := by
  simp only [subjects, List.mem_flatMap, Option.mem_toList, List.mem_filterMap]

/-- Every site of a stored profile is known, with the type of what was seen first. -/
theorem Sound.subject? (sound : session.Sound) {test : String} {profile : Profile}
    (stored : session.recorder.profiles.get? test = some profile) {site : UInt32} (listed : site ∈ profile.sites)
    (profiles : List Profile) :
    ∃ first known, profile.first? site = some first ∧ session.recorder.sites.get? site = some known ∧
      known.type = first.type ∧
      session.recorder.sites.subject? profiles profile site =
        some ⟨test, site, first.value, alternateValues profiles site known.type first.value⟩ := by
  obtain ⟨named, observed⟩ := sound.profiles test profile stored
  obtain ⟨first, member, seen, rfl⟩ := Profile.first?_of_mem_sites listed
  obtain ⟨⟨known, found, typed, _⟩, _⟩ := observed first member
  refine ⟨first, known, seen, found, typed, ?_⟩
  simp only [SiteTable.subject?, seen, found, named]

end Session

namespace Localizer

/-- Recording a baseline runs the selected tests in the order of the suite, and each of them does as it does alone. -/
theorem recordBaseline_alone {alone origin : Session TestSuite} {localizer ready : Localizer TestSuite}
    {baseline : Baseline} (before : Session.Follows origin localizer.session)
    (peers : Session.Peers alone (localizer.session.inMode .recording))
    (recorded : localizer.recordBaseline TestSuite.executor = (baseline, ready)) :
    Session.RecordedAlone alone (localizer.session.inMode .recording)
      ((TestSuite.executor.tests origin.state).filter localizer.selected) (baseline, ready.session) ∧
    ready.baseline = some baseline := by
  have order : TestSuite.executor.tests localizer.session.state = TestSuite.executor.tests origin.state := by
    simp only [TestSuite.executor, before.suite.tests]
  rw [recordBaseline, Session.recordBaseline_eq, before.sound.recordInOrder, order] at recorded
  have ran := Session.runAll_alone ((TestSuite.executor.tests origin.state).filter localizer.selected) peers rfl
  cases recorded
  exact ⟨ran, rfl⟩

/-- A baseline has the selected tests in the order of the suite, and each of them leaves a profile. -/
theorem recordBaseline_leaves {origin : Session TestSuite} {localizer ready : Localizer TestSuite}
    {baseline : Baseline} (before : Session.Follows origin localizer.session)
    (recorded : localizer.recordBaseline TestSuite.executor = (baseline, ready)) :
    Session.Follows origin ready.session ∧ ready.baseline = some baseline ∧
      baseline.map (·.1) = (TestSuite.executor.tests origin.state).filter localizer.selected ∧
      ∀ test ∈ baseline.failing, ∃ profile, ready.session.recorder.profiles.get? test = some profile := by
  obtain ⟨⟨continues, _, results, _, profiles⟩, held⟩ :=
    recordBaseline_alone before (.refl (before.sound.inMode .recording)) recorded
  dsimp only at continues results profiles
  have names : baseline.map (·.1) = (TestSuite.executor.tests origin.state).filter localizer.selected := by
    rw [results, List.map_map]
    exact List.map_id _
  refine ⟨before.trans ((before.sound.follows_inMode .recording).trans continues.toFollows), held, names, ?_⟩
  intro test failing
  obtain ⟨entry, kept, rfl⟩ := List.mem_map.1 failing
  have inOrder : entry.1 ∈ baseline.map (·.1) := List.mem_map_of_mem (List.mem_filter.1 kept).1
  rw [names] at inOrder
  obtain ⟨profile, _, stored, _⟩ := profiles entry.1 inOrder
  exact ⟨profile, stored⟩

/-- The search finds exactly what the trials say that are made alone, each of a copy of one value at one site
of a failing test: the first value that makes the test pass, and what could not be judged before it. No value
is ever refused, and the search leaves neither an override nor its mode behind. -/
theorem search_eq_expected {modules : List Module} {testModule : String} {limits : Limits} {suite : TestSuite}
    (loaded : TestSuite.load modules testModule limits = .ok suite) {heap : Heap}
    {localizer ready : Localizer TestSuite}
    (history : Session.Reached ⟨suite, .new suite.sites, heap⟩ localizer.session) {baseline : Baseline}
    (recorded : localizer.recordBaseline TestSuite.executor = (baseline, ready)) :
    baseline.map (·.1) = (TestSuite.executor.tests suite).filter localizer.selected ∧
    (∃ done, ready.search TestSuite.executor =
        .ok ((baseline, .expected (suite.replayed suite.sites ready.session.heap)
          (ready.session.subjects baseline)), done) ∧
      Session.Reached ready.session done.session ∧ done.session.recorder.overrides = .empty ∧
      done.session.recorder.mode = .recording) ∧
    (∀ test ∈ baseline.failing, ∃ profile, ready.session.recorder.profiles.get? test = some profile ∧
      ∀ site ∈ profile.sites, ∃ first known, profile.first? site = some first ∧ suite.sites.get? site = some known ∧
        ⟨test, site, first.value,
          alternateValues (ready.session.baselineProfiles baseline) site known.type first.value⟩ ∈
          ready.session.subjects baseline) ∧
    ∀ subject ∈ ready.session.subjects baseline, ∀ value ∈ subject.pool, ∀ later,
      Session.Reached ready.session later →
      ∃ installed, later.recorder.install subject.site (later.heap.copy value).1 = .ok installed := by
  have begun := history.follows (Session.sound_fresh (TestSuite.load_sound loaded) suite.sites heap)
  obtain ⟨follows, held, names, profiles⟩ := recordBaseline_leaves begun recorded
  have sites : ready.session.recorder.sites = suite.sites := follows.sites
  refine ⟨names, ?_, ?_, ?_⟩
  · have replaying := follows.sound.inMode .replay
    have judges := Session.judges_replayed (TestSuite.load_sound loaded) follows.suite
    obtain ⟨found, last, tried, left⟩ := Session.search_expected judges replaying rfl baseline (.refl replaying)
    rw [sites] at found
    rw [search_of_baseline _ held, found, left]
    exact ⟨_, rfl, .mode _ ((Session.Reached.mode _ .start).trans tried.reached), tried.sound.overrides, rfl⟩
  · intro test failing
    obtain ⟨profile, stored⟩ := profiles test failing
    refine ⟨profile, stored, ?_⟩
    intro site seen
    obtain ⟨first, known, found, declared, _, subject⟩ :=
      follows.sound.subject? stored seen (ready.session.baselineProfiles baseline)
    rw [sites] at declared
    exact ⟨first, known, found, declared,
      Session.mem_subjects.2 ⟨test, failing, profile, stored, site, seen, subject⟩⟩
  · intro subject member value pooled later reached
    obtain ⟨test, failing, profile, stored, site, seen, found⟩ := Session.mem_subjects.1 member
    obtain ⟨_, takes⟩ :=
      Session.usable_of_subject? (Session.lists_baselineProfiles follows.sound baseline) found value pooled
    have still : later.recorder.sites.Takes subject.site (later.heap.copy value).1 := by
      rw [(reached.follows follows.sound).sites]
      exact (SiteTable.takes_copy _).2 takes
    exact ⟨_, Recorder.install_of_takes still⟩

/-- A guard that fails on the value of one test and passes with that of another. -/
theorem search_eq_expected_guarded : ∃ suite ready done,
    TestSuite.load [guardedModule] "Guarded" { steps := some 50 } = .ok suite ∧
    (⟨⟨suite, .new suite.sites, .empty⟩, fun _ => true, none⟩ : Localizer TestSuite).recordBaseline
    TestSuite.executor =
      ([("Tests::passes", .pass), ("Tests::fails", .fail "zero")], ready) ∧
    ready.search TestSuite.executor =
      .ok (([("Tests::passes", .pass), ("Tests::fails", .fail "zero")],
        ⟨[⟨7, "Tests::fails", .int32 0, .int32 1⟩], [], 1⟩), done) := by
  obtain ⟨suite, ready, loaded, recorded, finds⟩ : ∃ suite ready,
      TestSuite.load [guardedModule] "Guarded" { steps := some 50 } = .ok suite ∧
      (⟨⟨suite, .new suite.sites, .empty⟩, fun _ => true, none⟩ : Localizer TestSuite).recordBaseline
      TestSuite.executor =
        ([("Tests::passes", .pass), ("Tests::fails", .fail "zero")], ready) ∧
      Findings.expected (suite.replayed suite.sites ready.session.heap)
        (ready.session.subjects [("Tests::passes", .pass), ("Tests::fails", .fail "zero")]) =
          ⟨[⟨7, "Tests::fails", .int32 0, .int32 1⟩], [], 1⟩ :=
    ⟨_, _, rfl, rfl, rfl⟩
  obtain ⟨_, ⟨done, searched, _⟩, _⟩ := search_eq_expected loaded .start recorded
  rw [finds] at searched
  exact ⟨suite, ready, done, loaded, recorded, searched⟩

end Localizer

end Faultline
