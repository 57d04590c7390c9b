import Faultline.Proofs.Recording.Aligned
import Faultline.Proofs.Search.Outcome

namespace Faultline

/-- A run of a test leaves the hook and the heap alone, or it executes some number of instructions. Which of
these it is and how it begins depends on the suite alone. -/
theorem TestSuite.run_cases {σ : Type} (hook : Hook σ) (suite : TestSuite) (test : String) :
    (∀ hookState heap, (run hook test suite hookState heap).2.2 = (hookState, heap)) ∨
      ∃ method frames, suite.machine.program.enter suite.machine.limits method [] = .ok frames ∧ ∃ count,
        ∀ hookState heap,
        let step := State.advance (State.step suite.machine.program hook suite.machine.limits) count
          ⟨frames, ⟨heap, .empty⟩, hookState⟩
        (run hook test suite hookState heap).2.2 = (step.hookState, step.memory.heap) := by
  obtain ⟨⟨program, limits, memory, steps⟩, tests⟩ := suite
  unfold run
  cases found : tests.find? (·.text = test) with
  | none => exact Or.inl fun _ _ => rfl
  | some method =>
    simp only [Machine.invoke]
    cases declared : program.method method with
    | error failure => exact Or.inl fun _ _ => rfl
    | ok target =>
      dsimp only
      cases entered : enterCall limits target [] [] with
      | error failure => exact Or.inl fun _ _ => rfl
      | ok frames =>
        refine Or.inr ⟨method, frames, ?_, (limits.steps.getD 0xFFFFFFFFFFFFFFFF).toNat, fun hookState heap => ?_⟩
        · simp only [Program.enter, declared]
          exact entered
        · have answer := State.run_eq program hook limits (limits.steps.getD 0xFFFFFFFFFFFFFFFF)
            (limits.steps.getD 0xFFFFFFFFFFFFFFFF).toNat ⟨frames, ⟨heap, .empty⟩, hookState⟩
          dsimp only at answer ⊢
          generalize State.advance (State.step program hook limits) _ _ = step at answer ⊢
          cases step with
          | running last =>
            rw [answer.2]
            rfl
          | halted result last =>
            rw [answer.2]
            rfl

namespace Recorder

variable {table : SiteTable} {test : String} {mode : Mode} {overrides : Table UInt32 Value}

/-- A new recorder with the override of a replay is where one without it is that begins to record. -/
theorem aligned_new {site : UInt32} (copy : Value) :
    Aligned test site (fun _ _ => False) ((Recorder.new table).beginTest test)
      (beginTest { Recorder.new table with mode := .replay, overrides := Table.empty.insert site copy } test) where
  current := current_beginTest ..
  current' := current_beginTest ..
  recording := (since_beginTest ..).mode
  replaying := (since_beginTest ..).mode
  sites := rfl
  overrides other away := by
    rw [(since_beginTest ..).overrides, Table.get?_insert, if_neg away]
    rfl
  written := by
    rw [written_beginTest, written_beginTest]
    exact .empty test
  unseen observation listed := by
    rw [written_beginTest] at listed
    cases listed

/-- A new recorder lists nothing, so that a program can come by its overrides only. -/
theorem apart_new {own : Nat → Prop} (within : ∀ site value, overrides.get? site = some value → value.Within own) :
    (beginTest { Recorder.new table with mode, overrides } test).Apart own fun _ => False := by
  refine ⟨fun value recorded => ?_, fun value installed => ?_⟩
  · obtain ⟨observation, listed, -⟩ := recorded.of_beginTest
    cases listed with
    | recorded stored => cases stored
    | replayed stored => cases stored
  · obtain ⟨site, found⟩ := installed.of_beginTest
    exact within site value found

end Recorder

namespace Session

variable {suite : TestSuite} {table : SiteTable} {heap : Heap} {test : String} {site : UInt32} {value : Value}

/-- In a suite that was just loaded, a replay sees what a recorded run sees, up to where its override is. -/
theorem trial_agrees_alone (held : heap.Holds value) (takes : table.Takes site value) :
    let start : Session TestSuite := ⟨suite, .new table, heap⟩
    let ran := (start.run TestSuite.executor test).2
    let tried := ((suite.alone table heap).trial TestSuite.executor site test value).2
    (∀ observation ∈ (ran.recorder.written test).latest, observation.site ≠ site) ∨
      Profile.AgreeUpTo site ran.heap (ran.recorder.written test) tried.heap (tried.recorder.written test) := by
  intro start ran tried
  let begun := (Recorder.new table).beginTest test
  let begun' := Recorder.beginTest
    { Recorder.new table with mode := .replay, overrides := Table.empty.insert site (heap.copy value).1 } test
  have seen : ran.recorder.written test = (TestSuite.run Recorder.hook test suite begun heap).2.2.1.written
    test := rfl
  have left : ran.heap = (TestSuite.run Recorder.hook test suite begun heap).2.2.2 := rfl
  have usable : (suite.alone table heap).recorder.sites.Takes site value := takes
  have trial := trial_of_takes TestSuite.executor usable test
  have seen' : tried.recorder.written test =
      (TestSuite.run Recorder.hook test suite begun' (heap.copy value).2).2.2.1.written test :=
    congrArg (fun trial => trial.2.recorder.written test) trial
  have left' : tried.heap = (TestSuite.run Recorder.hook test suite begun' (heap.copy value).2).2.2.2 :=
    congrArg (fun trial => trial.2.heap) trial
  have aligned : Recorder.Aligned test site _ begun begun' := Recorder.aligned_new (heap.copy value).1
  rw [seen, left, seen', left']
  rcases suite.run_cases Recorder.hook test with idle | ⟨method, frames, entered, count, runs⟩
  · rw [idle]
    exact Or.inl aligned.unseen
  · have related : State.Beside suite.machine.program (Recorder.Aligned test site) (fun _ _ => False)
        ⟨frames, ⟨heap, .empty⟩, begun⟩ ⟨frames, ⟨(heap.copy value).2, .empty⟩, begun'⟩ :=
      ⟨Program.enter_beside entered, ⟨Heap.paired_none, .empty⟩, aligned⟩
    have owned (own : Nat → Prop) (heap : Heap) (recorder : Recorder) :
        State.Owned suite.machine.program own ⟨frames, ⟨heap, .empty⟩, recorder⟩ :=
      ⟨List.forall₂_same.1 (Program.enter_beside entered), fun _ none => by cases none⟩
    obtain ⟨closed, within⟩ := Heap.copy_within held
    have apart : begun.Apart (fun _ => False) fun _ => False := Recorder.apart_new fun _ _ installed => by
      cases installed
    have apart' : begun'.Apart (heap.madeFor value) fun _ => False := by
      refine Recorder.apart_new fun place other installed => ?_
      rw [Table.get?_insert] at installed
      split at installed
      · cases installed
        exact within
      · cases installed
    rw [runs, runs]
    exact State.advance_agree _ count related (owned ..)
      ⟨Heap.closed_none, Heap.closed_none, fun _ none => none.elim⟩ apart
      (owned ..) ⟨closed, Heap.closed_none, fun _ _ none => none.elim⟩ apart'

/-- A search replaces what a test of the baseline first saw at the site. -/
theorem Sound.replaced_of_search {session : Session TestSuite} (sound : session.Sound) {baseline : Baseline}
    {candidate : Candidate} (listed : candidate ∈ (session.search TestSuite.executor baseline).1.candidates)
    {profile : Profile} (stored : session.recorder.profiles.get? candidate.test = some profile) :
    ∃ first, profile.first? candidate.site = some first ∧ candidate.replaced = first.value := by
  have replaying := sound.inMode .replay
  obtain ⟨found, -⟩ := search_expected (judges_replayed sound.suite (.refl _)) replaying rfl baseline
    (.refl replaying)
  rw [found] at listed
  obtain ⟨subject, among, found⟩ := List.mem_flatMap.1 listed
  obtain ⟨test, -, other, stored', place, seen, made⟩ := mem_subjects.1 among
  obtain ⟨first, known, here, -, -, same⟩ := replaying.subject? stored' seen (session.baselineProfiles baseline)
  cases made.symm.trans same
  obtain ⟨value, -, rfl⟩ := List.mem_map.1 found
  cases stored'.symm.trans stored
  exact ⟨first, here, rfl⟩

end Session

/-- A replay agrees with the baseline up to the site of its override. Whatever was run since, it sees there
what the baseline saw there, after the same observations as in the baseline; only then does the override take
its place. And that is the value that the search says was replaced. -/
theorem Localizer.replay_agrees {modules : List Module} {testModule : String} {limits : Limits} {suite : TestSuite}
    (loaded : TestSuite.load modules testModule limits = .ok suite) {table : SiteTable} {heap : Heap}
    {localizer ready : Localizer TestSuite} (before : Session.Reached ⟨suite, .new table, heap⟩ localizer.session)
    {baseline : Baseline} (recorded : localizer.recordBaseline TestSuite.executor = (baseline, ready)) {test : String}
    (listed : test ∈ baseline.map (·.1)) :
    ∃ profile, ready.session.recorder.profiles.get? test = some profile ∧
      ∀ site ∈ profile.sites, ∃ first, profile.first? site = some first ∧
        (∀ outcome last, ready.search TestSuite.executor = .ok (outcome, last) → ∀ candidate ∈ outcome.2.candidates,
          candidate.test = test → candidate.site = site → candidate.replaced = first.value) ∧
        ∀ later value, Session.Reached ready.session later → later.heap.Holds value → table.Takes site value →
          let tried := ((later.inMode .replay).trial TestSuite.executor site test value).2
          ∃ replayed first', tried.recorder.replay = some replayed ∧ replayed.first? site = some first' ∧
            Profile.AgreeUpTo site ready.session.heap profile tried.heap replayed ∧
            Heap.SameContent ready.session.heap first.value tried.heap first'.value := by
  have sound := TestSuite.load_sound loaded
  have begun := before.follows (Session.sound_fresh sound table heap)
  obtain ⟨follows, held, names, -⟩ := recordBaseline_leaves begun recorded
  have stored := (recordBaseline_alone begun (.refl (begun.sound.inMode .recording)) recorded).1.profiles test
    (names ▸ listed)
  obtain ⟨profile, -, stored, -⟩ := stored
  refine ⟨profile, stored, fun site seen => ?_⟩
  obtain ⟨first, member, here, rfl⟩ := Profile.first?_of_mem_sites seen
  refine ⟨first, here, ?_, ?_⟩
  · intro outcome last searched candidate among sameTest sameSite
    rw [search_of_baseline _ held] at searched
    cases searched
    subst sameTest
    obtain ⟨other, found, replaced⟩ := follows.sound.replaced_of_search among stored
    rw [sameSite, here] at found
    cases found
    exact replaced
  · intro later value onward holding takes tried
    have since := follows.trans (onward.follows follows.sound)
    have fresh := Session.sound_fresh sound table later.heap
    obtain ⟨same, pairing, stored', heaps, alike⟩ := (recordBaseline_alone begun
      ⟨fresh, begun.sound.inMode .recording, begun.suite, begun.sites, rfl⟩ recorded).1.profiles test (names ▸ listed)
    cases stored.symm.trans stored'
    have peers : Session.Peers (suite.alone table later.heap) (later.inMode .replay) :=
      ⟨fresh.inMode .replay, since.sound.inMode .replay, since.suite, since.sites, rfl⟩
    obtain ⟨grown, ran⟩ := peers.trial (holding.sameContent .refl) takes test
    have agree := (Session.trial_agrees_alone holding takes).resolve_left fun unseen => by
      obtain ⟨original, among, same⟩ := forall₂_exists_left alike.latest member
      exact unseen original among same.site.symm
    have agree := ((agree.onward (ran.written.begins ran.beside.heaps)).symm.onward (alike.begins heaps)).symm
    obtain ⟨_, first', found, found', content⟩ := agree.first?
    cases here.symm.trans found
    have replaying : tried.recorder.mode = .replay := ran.after'.recorder.mode
    obtain ⟨replayed, kept, -⟩ : ∃ replayed, tried.recorder.replay = some replayed ∧
        first' ∈ replayed.observations := by
      have listed := List.mem_of_find?_eq_some found'
      rw [Recorder.written, replaying] at listed
      exact Profile.stored_of_mem listed
    have whole : tried.recorder.written test = replayed := by
      rw [Recorder.written, replaying, kept]
      rfl
    exact ⟨replayed, first', kept, whole ▸ found', whole ▸ agree, content⟩

/-- A guarded test replayed with the override that makes it pass. -/
theorem Localizer.replay_agrees_guarded : ∃ suite ready profile replayed,
    TestSuite.load [guardedModule] "Guarded" { steps := some 50 } = .ok suite ∧
    (⟨⟨suite, .new suite.sites, .empty⟩, fun _ => true, none⟩ : Localizer TestSuite).recordBaseline
    TestSuite.executor =
      ([("Tests::passes", .pass), ("Tests::fails", .fail "zero")], ready) ∧
    ready.session.recorder.profiles.get? "Tests::fails" = some profile ∧
    ((ready.session.inMode .replay).trial TestSuite.executor 7 "Tests::fails" (.int32 1)).2.recorder.replay =
    some replayed ∧
    Profile.AgreeUpTo 7 ready.session.heap profile
      ((ready.session.inMode .replay).trial TestSuite.executor 7 "Tests::fails" (.int32 1)).2.heap replayed := by
  obtain ⟨suite, ready, loaded, recorded, profile, stored, seen, known⟩ : ∃ suite ready,
      TestSuite.load [guardedModule] "Guarded" { steps := some 50 } = .ok suite ∧
      (⟨⟨suite, .new suite.sites, .empty⟩, fun _ => true, none⟩ : Localizer TestSuite).recordBaseline
      TestSuite.executor =
        ([("Tests::passes", .pass), ("Tests::fails", .fail "zero")], ready) ∧
      ∃ profile, ready.session.recorder.profiles.get? "Tests::fails" = some profile ∧ 7 ∈ profile.sites ∧
        suite.sites.get? 7 = some ⟨7, .int32, ⟨"tests", 3, 3, 5, 9⟩, "Tests::check"⟩ :=
    ⟨_, _, rfl, rfl, _, rfl, by decide, rfl⟩
  have listed : "Tests::fails" ∈ ([("Tests::passes", .pass), ("Tests::fails", .fail "zero")] : Baseline).map
    (·.1) := by decide
  obtain ⟨_, stored', agrees⟩ := replay_agrees loaded .start recorded listed
  cases stored.symm.trans stored'
  obtain ⟨_, -, -, replays⟩ := agrees 7 seen
  obtain ⟨replayed, _, replay, -, agree, -⟩ :=
    replays ready.session (.int32 1) .start (fun _ none => by cases none) ⟨_, known, rfl⟩
  exact ⟨suite, ready, profile, replayed, loaded, recorded, stored, replay, agree⟩

end Faultline
