import Mathlib.Data.List.Permutation
import Faultline.Proofs.Search.Recounts

namespace Faultline

open Relation (ReflTransGen)

variable {ε κ : Type}

/-- What the pool of a subject is made of, where the profiles of the tests are gone by: of every value on
record for the site, but for the one that its test saw there first. -/
structure Subject.Pools (recorder : Recorder) (tests : List String) (subject : Subject) : Prop where
  test : subject.test ∈ tests
  first : ∃ index observation, recorder.Has subject.test index observation ∧ observation.site = subject.site ∧
    observation.value = subject.replaced ∧
    ∀ earlier < index, ∀ other, recorder.Has subject.test earlier other → other.site ≠ subject.site
  once : subject.pool.Nodup
  mem : ∀ value, value ∈ subject.pool ↔ value ≠ subject.replaced ∧ ∃ test ∈ tests, ∃ index observation,
    recorder.Has test index observation ∧ observation.site = subject.site ∧ observation.value = value

/-- Whether what a run of a test has shown at a place is what a subject replaces: the first value at its site
in the run of its test. -/
def Subject.Replaces (subject : Subject) (test : String) (shown : List Showing) (index : Nat) : Prop :=
  test = subject.test ∧ ∀ earlier < index, ∀ other, shown[earlier]? = some other → other.point.site ≠ subject.site

section Subjects

variable {session : Session ε} {runs : List (String × List Showing)} {baseline : Baseline} {subject : Subject}

/-- Where a subject comes from: a test, its profile, a site of it and the values other tests have there. -/
theorem SiteTable.of_mem_subjects {table : SiteTable} {profiles : List Profile} {tests : List String}
    (listed : subject ∈ table.subjects profiles tests) :
    ∃ test ∈ tests, ∃ profile, profiles.find? (·.test = test) = some profile ∧
      ∃ site first known, profile.first? site = some first ∧ table.get? site = some known ∧
        subject = ⟨profile.test, site, first.value, alternateValues profiles site known.type first.value⟩ := by
  simp only [subjects, List.mem_flatMap, Option.mem_toList, List.mem_filterMap] at listed
  obtain ⟨test, member, profile, found, site, _, made⟩ := listed
  unfold subject? at made
  split at made
  · rename_i first known seen declared
    exact ⟨test, member, profile, found, site, first, known, seen, declared, (Option.some.inj made).symm⟩
  · cases made

/-- The sightings of a site are the values the recorder has there for the tests of the baseline. -/
theorem Session.mem_sightings {site : UInt32} {value : Value} :
    value ∈ sightings (session.baselineProfiles baseline) site ↔ ∃ test ∈ baseline.map (·.1), ∃ index observation,
      session.recorder.Has test index observation ∧ observation.site = site ∧ observation.value = value := by
  simp only [sightings, List.mem_map, List.mem_filter, List.mem_flatMap, decide_eq_true_eq]
  constructor
  · rintro ⟨observation, ⟨⟨profile, listed, among⟩, here⟩, rfl⟩
    obtain ⟨entry, member, stored⟩ := List.mem_filterMap.1 listed
    obtain ⟨index, there⟩ := List.mem_iff_getElem?.1 among
    exact ⟨entry.1, ⟨entry, member, rfl⟩, index, observation, ⟨profile, stored, there⟩, here, rfl⟩
  · rintro ⟨_, ⟨entry, member, rfl⟩, index, observation, ⟨profile, stored, there⟩, here, rfl⟩
    exact ⟨observation,
      ⟨⟨profile, List.mem_filterMap.2 ⟨entry, member, stored⟩, List.mem_of_getElem? there⟩, here⟩, rfl⟩

/-- Whatever is on record is of the type of its site. -/
theorem Session.Recounts.knows (h : session.Recounts runs) {test : String} (ran : test ∈ runs.map (·.1)) {index : Nat}
    {observation : Observation} (has : session.recorder.Has test index observation) :
    session.recorder.Knows observation := by
  obtain ⟨shown, last⟩ := Option.isSome_iff_exists.1 (isSome_lastShown.2 ran)
  obtain ⟨profile, stored, there⟩ := has
  obtain ⟨_, stored', _, known, _⟩ := h.stored test shown last
  rw [stored, Option.some.injEq] at stored'
  subst stored'
  exact known observation (List.mem_reverse.1 (List.mem_of_getElem? there))

/-- The pool of a subject holds the first of each value that another test has at its site. -/
theorem Session.Recounts.pools (h : session.Recounts runs) (names : runs.map (·.1) = baseline.map (·.1))
    (listed : subject ∈ session.recorder.sites.subjects (session.baselineProfiles baseline) baseline.failing) :
    subject.Pools session.recorder (baseline.map (·.1)) := by
  obtain ⟨test, failing, profile, found, site, first, known, seen, declared, rfl⟩ := SiteTable.of_mem_subjects listed
  have ran : test ∈ baseline.map (·.1) := (List.filter_sublist.map _).subset failing
  have named : profile.test = test := by simpa using List.find?_some found
  have stored : session.recorder.profiles.get? profile.test = some profile := by
    obtain ⟨entry, member, stored⟩ := List.mem_filterMap.1 (List.mem_of_find?_eq_some found)
    have ran : entry.1 ∈ runs.map (·.1) := names ▸ List.mem_map_of_mem member
    obtain ⟨shown, last⟩ := Option.isSome_iff_exists.1 (isSome_lastShown.2 ran)
    obtain ⟨_, stored', same, _⟩ := h.stored _ _ last
    rw [stored, Option.some.injEq] at stored'
    subst stored'
    rw [same, stored]
  obtain ⟨_, pooled, distinct, complete, _⟩ :=
    alternateValues_pool (session.baselineProfiles baseline) site known.type first.value
  refine ⟨named ▸ ran, ?_, distinct.imp fun {a b} different same => different (Value.same_iff.2 same),
    fun value => ⟨fun member => ?_, ?_⟩⟩
  · obtain ⟨here, index, inside, there, before⟩ := List.find?_eq_some_iff_getElem.1 seen
    refine ⟨index, first,
      ⟨profile, stored, List.getElem?_eq_some_iff.2 ⟨inside, there⟩⟩, by simpa using here, rfl, ?_⟩
    rintro earlier lower other ⟨_, again, place⟩
    rw [stored, Option.some.injEq] at again
    subst again
    obtain ⟨_, rfl⟩ := List.getElem?_eq_some_iff.1 place
    simpa using before earlier lower
  · obtain ⟨sighted, _, different⟩ := pooled value member
    exact ⟨fun same => different (Value.same_iff.2 same), Session.mem_sightings.1 sighted⟩
  · rintro ⟨different, test', ran', index, observation, has, here, rfl⟩
    obtain ⟨site', declared', typed, fits⟩ := h.knows (names ▸ ran') has
    rw [here, declared, Option.some.injEq] at declared'
    subst declared'
    have sighted := Session.mem_sightings.2 ⟨test', ran', index, observation, has, here, rfl⟩
    have one := complete _ sighted (typed ▸ fits) fun same => different (Value.same_iff.1 same)
    obtain ⟨pick, member, same⟩ := List.countP_pos_iff.1 (one ▸ Nat.one_pos)
    exact Value.same_iff.1 same ▸ member

theorem Heap.SameContent.isSome_reference? {heap heap' : Heap} {value value' : Value}
    (same : heap.SameContent value heap' value') :
    value'.reference?.isSome = value.reference?.isSome := by
  obtain ⟨_, _, alike⟩ := same
  rcases alike.reference? with ⟨absent, absent'⟩ | ⟨_, _, found, found', _⟩
  · rw [absent, absent']
  · rw [found, found']
    rfl

/-- An object that was shown at the site of a subject, unless it is the one replaced, is in its pool as it was
then. -/
theorem Session.Recounts.offers (h : session.Recounts runs) {tests : List String}
    (names : runs.map (·.1) = tests) (pools : subject.Pools session.recorder tests) {test : String}
    {shown : List Showing} (last : lastShown runs test = some shown) {index : Nat} {showing : Showing}
    (there : shown[index]? = some showing) (here : showing.point.site = subject.site)
    (refers : showing.value.reference?.isSome) (other : ¬ subject.Replaces test shown index) :
    ∃ alternate ∈ subject.pool, Heap.SameContent showing.heap showing.value session.heap alternate := by
  have ran : test ∈ tests := names ▸ isSome_lastShown.1 (last ▸ rfl)
  obtain ⟨profile, stored, _, _, told⟩ := h.stored test shown last
  have places : ∀ {place : Nat} {showing : Showing}, shown[place]? = some showing → ∃ observation,
      session.recorder.Has test place observation ∧ observation.Of session.heap showing := by
    intro place showing there
    obtain ⟨inside, rfl⟩ := List.getElem?_eq_some_iff.1 there
    obtain ⟨length, each⟩ := List.forall₂_iff_get.1 told
    have inside' : place < profile.observations.length := length ▸ inside
    exact ⟨profile.observations[place], ⟨profile, stored, List.getElem?_eq_getElem inside'⟩,
      each place inside inside'⟩
  obtain ⟨observation, has, site, _, content⟩ := places there
  refine ⟨observation.value,
    (pools.mem _).2 ⟨fun same => other ?_, test, ran, index, observation, has, site.trans here, rfl⟩, content⟩
  -- The object of the observation that is replaced is found nowhere else.
  obtain ⟨first, replaced, hasFirst, _, value, before⟩ := pools.first
  rw [← content.isSome_reference?] at refers
  obtain ⟨reference, found⟩ := Option.isSome_iff_exists.1 refers
  obtain ⟨rfl, rfl⟩ := h.individual _ (names ▸ ran) _ (names ▸ pools.test) _ _ _ _ _ _ has found hasFirst
    (value ▸ same ▸ found) rfl
  refine ⟨rfl, fun earlier lower other there => ?_⟩
  obtain ⟨_, hasEarlier, siteEarlier, _⟩ := places there
  exact siteEarlier ▸ before earlier lower _ hasEarlier

end Subjects

theorem Session.names_runAll (executor : Executor ε) (tests : List String) (session : Session ε) :
    (runAll executor tests session).1.map (·.1) = tests := by
  induction tests generalizing session with
  | nil => rfl
  | cons test rest ih => exact congrArg (test :: ·) (ih _)

theorem Session.trials_tryAlternates_singleton (executor : Executor ε) (test : String) (site : UInt32)
    (replaced alternate : Value) (session : Session ε) :
    (session.tryAlternates executor test site replaced [alternate]).1.trials = 1 := by
  rw [tryAlternates]
  split <;> rfl

namespace Localizer

open TestSuite (Execution)

/-- Objects on record are told apart by where they were seen, whatever they are copies of: each observation of
an object that the runs of a baseline make has an object of its own, with the content that was shown. So the
pool of a subject has one value for each time that an object was shown at its site, even for the same object
that comes again as it was, but for the first time in the run of its test. -/
theorem alternates_individual {executor : Executor ε} {process : Process ε κ}
    {rests : (Nat → Prop) → ε → Prop} {holds : (Nat → Prop) → κ → Prop} {shows : κ → HookPoint → Value → Prop}
    (performs : process.Performs executor) (confined : process.Confined rests holds)
    (tells : process.Tells holds shows) {localizer ready : Localizer ε} {own kept : Nat → Prop}
    (split : localizer.session.heap.Split own kept)
    (records : ∀ value, localizer.session.recorder.Records value → value.Within kept)
    (rest : rests own localizer.session.state) {baseline : Baseline}
    (recorded : localizer.recordBaseline executor = (baseline, ready)) :
    ∃ runs, runs.map (·.1) = baseline.map (·.1) ∧
      process.RanAll shows
        (localizer.session.mapRecorder fun recorder => { recorder.clearOverrides with mode := .recording })
          runs ready.session ∧
      (∀ test shown, lastShown runs test = some shown → ∃ profile,
        ready.session.recorder.profiles.get? test = some profile ∧
        List.Forall₂ (fun showing observation => observation.Of ready.session.heap showing) shown
          profile.observations) ∧
      ready.session.recorder.Individual (baseline.map (·.1)) ∧
      ∀ subject ∈ ready.session.recorder.sites.subjects (ready.session.baselineProfiles baseline) baseline.failing,
        subject.Pools ready.session.recorder (baseline.map (·.1)) ∧
        ∀ (test : String) (shown : List Showing) (index : Nat) (showing : Showing), lastShown runs test = some shown →
          shown[index]? = some showing → showing.point.site = subject.site → showing.value.reference?.isSome →
          ¬ subject.Replaces test shown index →
          ∃ alternate ∈ subject.pool, Heap.SameContent showing.heap showing.value ready.session.heap alternate := by
  set start := localizer.session.mapRecorder fun recorder =>
    { recorder.clearOverrides with mode := .recording } with begun
  have apart : start.Apart rests own kept :=
    ⟨split, ⟨fun value listed => records value (listed.of_same rfl rfl), by rintro _ ⟨_, ⟨⟩⟩⟩, rest⟩
  have nothing : start.Recounts [] := ⟨rfl, nofun, nofun⟩
  obtain ⟨runs, names, all⟩ := performs.ranAll tells ((executor.tests start.state).filter localizer.selected) start
  have ran : Session.runAll executor ((executor.tests start.state).filter localizer.selected) start =
      (baseline, ready.session) := by
    cases recorded
    rfl
  have named := Session.names_runAll executor ((executor.tests start.state).filter localizer.selected) start
  rw [ran] at all named
  have h : ready.session.Recounts runs := nothing.runAll confined tells all apart
  have same : runs.map (·.1) = baseline.map (·.1) := names.trans named.symm
  refine ⟨runs, same, all, fun test shown last => ?_, same ▸ h.individual, fun subject listed => ?_⟩
  · obtain ⟨profile, stored, _, _, told⟩ := h.stored test shown last
    exact ⟨profile, stored, told⟩
  · have pools := h.pools same listed
    exact ⟨pools, fun _ _ _ _ last there here refers other => h.offers same pools last there here refers other⟩

/-- A test that shows one cell twice and then fails. -/
def sharedModule : Module :=
  { name := "Cells", optimized := false, debugInfo := .full, metadata := .empty,
    classes := [⟨"Cell", [⟨"mark", .int32, false⟩]⟩]
    sites := [⟨7, .object "Cell", ⟨"tests", 3, 3, 5, 9⟩, "Tests::touch"⟩]
    methods := [
      { owner := "Tests", name := "touch", isStatic := true, params := [.object "Cell"], locals := [],
        returns := none, attributes := []
        body := some #[⟨.loadArg 0, none⟩, ⟨.loadString "tests", none⟩, ⟨.loadInt32 3, none⟩,
          ⟨.loadInt32 3, none⟩, ⟨.loadInt32 5, none⟩, ⟨.loadInt32 9, none⟩, ⟨.loadInt64 7, none⟩,
          ⟨.callHook (.object "Cell"), none⟩, ⟨.pop, none⟩, ⟨.return, none⟩] },
      { owner := "Tests", name := "twice", isStatic := true, params := [], locals := [], returns := none,
        attributes := ["Test"]
        body := some #[⟨.newObject "Cell", none⟩, ⟨.dup, none⟩, ⟨.call ⟨"Tests", "touch"⟩, none⟩,
          ⟨.call ⟨"Tests", "touch"⟩, none⟩, ⟨.loadString "failed", none⟩, ⟨.throw, none⟩] }] }

def sharedPoint : HookPoint := ⟨7, .object "Cell", ⟨"tests", 3, 3, 5, 9⟩⟩

def sharedBaseline : Baseline := [("Tests::twice", .fail "failed")]

def sharedSuite : TestSuite := (TestSuite.load [sharedModule] "Cells" { steps := some 50 }).toOption.get rfl

def sharedReady : Localizer TestSuite :=
  ((⟨⟨sharedSuite, .new sharedSuite.sites, .empty⟩, fun _ => true, none⟩ : Localizer TestSuite).recordBaseline
    TestSuite.executor).2

/-- The cell that is shown, and its copies on record. -/
def sharedCell (id : Nat) : Value := .object ⟨id, "Cell"⟩

def sharedSubject : Subject := ⟨"Tests::twice", 7, sharedCell 1, [sharedCell 2]⟩

theorem profiles_sharedReady : sharedReady.session.baselineProfiles sharedBaseline =
    [⟨"Tests::twice", [⟨7, 1, .object "Cell", sharedCell 2⟩, ⟨7, 0, .object "Cell", sharedCell 1⟩],
      .ofList [(7, 2)]⟩] := by
  let heap : Heap := ⟨#[.ofList [("mark", .int32 0)]]⟩
  calc sharedReady.session.baselineProfiles sharedBaseline =
      [⟨"Tests::twice", [⟨7, 1, .object "Cell", ((heap.copy (sharedCell 0)).2.copy (sharedCell 0)).1⟩,
        ⟨7, 0, .object "Cell", (heap.copy (sharedCell 0)).1⟩], .ofList [(7, 2)]⟩] := rfl
    _ = _ := by cbv

theorem subjects_sharedReady :
    sharedReady.session.recorder.sites.subjects (sharedReady.session.baselineProfiles sharedBaseline)
    sharedBaseline.failing = [sharedSubject] := by
  rw [profiles_sharedReady]
  rfl

/-- One cell shown twice: its second copy is in the pool, since copies are never the same. -/
theorem alternates_individual_shared : ∃ suite,
    TestSuite.load [sharedModule] "Cells" { steps := some 50 } = .ok suite ∧
    (⟨⟨suite, .new suite.sites, .empty⟩, fun _ => true, none⟩ : Localizer TestSuite).recordBaseline
    TestSuite.executor =
      (sharedBaseline, sharedReady) ∧
    sharedReady.session.recorder.sites.subjects (sharedReady.session.baselineProfiles sharedBaseline)
    sharedBaseline.failing =
      [sharedSubject] ∧
    sharedSubject.Pools sharedReady.session.recorder ["Tests::twice"] ∧
    sharedReady.session.recorder.Individual ["Tests::twice"] := by
  have nothing : Heap.empty.Split (fun _ => False) fun _ => False :=
    ⟨Heap.closed_none, Heap.closed_none, fun _ => False.elim⟩
  have loaded : TestSuite.load [sharedModule] "Cells" { steps := some 50 } = .ok sharedSuite := rfl
  have recorded :
      (⟨⟨sharedSuite, .new sharedSuite.sites, .empty⟩, fun _ => true, none⟩ : Localizer TestSuite).recordBaseline
      TestSuite.executor = (sharedBaseline, sharedReady) := rfl
  obtain ⟨_, _, _, _, individual, pools⟩ :=
    alternates_individual TestSuite.process_performs TestSuite.process_confined
    TestSuite.process_tells nothing (fun value listed => absurd listed (Recorder.not_records_new _ value))
    (fun value stored => absurd stored (TestSuite.stores_of_load loaded value)) recorded
  exact ⟨sharedSuite, loaded, recorded, subjects_sharedReady,
    (pools sharedSubject (subjects_sharedReady ▸ List.mem_singleton_self _)).1, individual⟩

/-- The test shows one cell at the site each time, as it was, and yet the search makes a trial: of the second
observation in place of the first. -/
theorem search_tries_shared : ∃ suite first second found done,
    TestSuite.load [sharedModule] "Cells" { steps := some 50 } = .ok suite ∧
    ReflTransGen TestSuite.process.step
      (.begin "Tests::twice" suite ((Recorder.new suite.sites).beginTest "Tests::twice") .empty) first ∧
    first.Shows sharedPoint (sharedCell 0) ∧ ReflTransGen TestSuite.process.step first second ∧
    second.Shows sharedPoint (sharedCell 0) ∧ second.heap.fields 0 = first.heap.fields 0 ∧
    (⟨⟨suite, .new suite.sites, .empty⟩, fun _ => true, none⟩ : Localizer TestSuite).recordBaseline
    TestSuite.executor =
      (sharedBaseline, sharedReady) ∧
    sharedReady.search TestSuite.executor = .ok ((sharedBaseline, found), done) ∧ found.trials = 1 := by
  obtain ⟨first, second, toFirst, shows, toSecond, again, copied, inside⟩ : ∃ first second,
      Execution.after?
      (.begin "Tests::twice" sharedSuite ((Recorder.new sharedSuite.sites).beginTest "Tests::twice") .empty) 10 =
        some first ∧ first.shown? = some (sharedPoint, sharedCell 0) ∧ first.after? 11 = some second ∧
      second.shown? = some (sharedPoint, sharedCell 0) ∧ second.heap = (first.heap.copy (sharedCell 0)).2 ∧
      0 < first.heap.size :=
    ⟨_, _, rfl, rfl, rfl, rfl, rfl, Nat.one_pos⟩
  have unchanged : second.heap.fields 0 = first.heap.fields 0 := by rw [copied, Heap.fields_copy_of_lt inside]
  have tried : (sharedReady.session.search TestSuite.executor sharedBaseline).1.trials = 1 := by
    unfold Session.search
    rw [profiles_sharedReady]
    exact Session.trials_tryAlternates_singleton TestSuite.executor "Tests::twice" 7 (sharedCell 1) (sharedCell 2)
      (sharedReady.session.inMode .replay)
  exact ⟨sharedSuite, first, second, _, _, rfl, Execution.steps_of_after? 10 toFirst, Execution.shows_of_shown? shows,
    Execution.steps_of_after? 11 toSecond, Execution.shows_of_shown? again, unchanged, rfl, rfl, tried⟩

end Localizer

end Faultline
