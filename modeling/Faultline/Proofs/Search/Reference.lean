import Faultline.Proofs.Recording.Bookkeeping
import Faultline.Proofs.Search.Alternates
import Faultline.Proofs.Search.Sessions

namespace Faultline

/-- A failing test and a site that it saw, with the value that it first saw there and those to try instead. -/
structure Subject where
  test : String
  site : UInt32
  replaced : Value
  pool : List Value

namespace Subject

section Results

variable (result : String → UInt32 → Value → TestResult)

/-- The first value that makes the test pass. -/
def fix? (subject : Subject) : Option Value :=
  subject.pool.find? fun value => (result subject.test subject.site value).isPass

/-- The values that come before the first one that makes the test pass. -/
def futile (subject : Subject) : List Value :=
  subject.pool.takeWhile fun value => !(result subject.test subject.site value).isPass

def tried (subject : Subject) : List Value := subject.futile result ++ (subject.fix? result).toList

def candidates (subject : Subject) : List Candidate :=
  (subject.fix? result).toList.map fun value => ⟨subject.site, subject.test, subject.replaced, value⟩

def undecided (subject : Subject) : List UndecidedTrial :=
  (subject.futile result).filterMap fun value =>
    match result subject.test subject.site value with
    | .inconclusive reason => some ⟨subject.site, subject.test, value, reason⟩
    | _ => none

end Results

end Subject

/-- What is found if every trial has the result that the function says. -/
def Findings.expected (result : String → UInt32 → Value → TestResult) (subjects : List Subject) : Findings :=
  ⟨subjects.flatMap (Subject.candidates result), subjects.flatMap (Subject.undecided result),
    (subjects.flatMap (Subject.tried result)).length⟩

/-- The result of a test that is run alone, with a copy of a value substituted at one site. -/
def TestSuite.replayed (suite : TestSuite) (sites : SiteTable) (heap : Heap) (test : String) (site : UInt32)
    (value : Value) :
    TestResult :=
  let recorder := { Recorder.new sites with mode := .replay, overrides := Table.ofList [(site, (heap.copy value).1)] }
  (Session.run TestSuite.executor ⟨suite, recorder, (heap.copy value).2⟩ test).1

section Subjects

variable {ε : Type}

/-- What to try for a test at a site. -/
def SiteTable.subject? (sites : SiteTable) (profiles : List Profile) (profile : Profile)
    (site : UInt32) : Option Subject :=
  match profile.first? site, sites.get? site with
  | some first, some known =>
    some ⟨profile.test, site, first.value, alternateValues profiles site known.type first.value⟩
  | _, _ => none

/-- What to try, by failing test in the order of the baseline and by site in the order of first sight. -/
def Session.subjects (session : Session ε) (baseline : Baseline) : List Subject :=
  baseline.failing.flatMap fun test =>
    (session.recorder.profiles.get? test).toList.flatMap fun profile =>
      profile.sites.filterMap (session.recorder.sites.subject? (session.baselineProfiles baseline) profile)

end Subjects

namespace Findings

variable {result : String → UInt32 → Value → TestResult}

theorem expected_append (subjects later : List Subject) :
    expected result (subjects ++ later) = expected result subjects ++ expected result later := by
  change _ = Findings.append _ _
  simp only [expected, append, List.flatMap_append, List.length_append]

theorem expected_cons (subject : Subject) (later : List Subject) :
    expected result (subject :: later) = expected result [subject] ++ expected result later :=
  expected_append [subject] later

theorem expected_of_pass {test : String} {site : UInt32} {replaced alternate : Value} (rest : List Value)
    (passed : result test site alternate = .pass) :
    expected result [⟨test, site, replaced, alternate :: rest⟩] = ⟨[⟨site, test, replaced, alternate⟩], [], 1⟩ := by
  simp [expected, Subject.candidates, Subject.undecided, Subject.tried, Subject.fix?, Subject.futile, passed,
    TestResult.isPass]

theorem expected_of_fail {test : String} {site : UInt32} {replaced alternate : Value} {reason : String}
    (rest : List Value) (failed : result test site alternate = .fail reason) :
    expected result [⟨test, site, replaced, alternate :: rest⟩] =
      ⟨[], [], 1⟩ ++ expected result [⟨test, site, replaced, rest⟩] := by
  change _ = Findings.append _ _
  simp [expected, append, Subject.candidates, Subject.undecided, Subject.tried, Subject.fix?, Subject.futile, failed,
    TestResult.isPass]
  omega

theorem expected_of_inconclusive {test : String} {site : UInt32} {replaced alternate : Value} {reason : String}
    (rest : List Value) (undecided : result test site alternate = .inconclusive reason) :
    expected result [⟨test, site, replaced, alternate :: rest⟩] =
      ⟨[], [⟨site, test, alternate, reason⟩], 1⟩ ++ expected result [⟨test, site, replaced, rest⟩] := by
  change _ = Findings.append _ _
  simp [expected, append, Subject.candidates, Subject.undecided, Subject.tried, Subject.fix?,
    Subject.futile, undecided, TestResult.isPass]
  omega

end Findings

namespace Session

/-- Sessions between trials that began with the first one. -/
structure Tried (base session : Session TestSuite) : Prop extends Continues base session where
  reached : Reached base session

/-- Whether the results of trials depend on nothing but what is tried. -/
def Judges (base : Session TestSuite) (result : String → UInt32 → Value → TestResult) : Prop :=
  ∀ session, Tried base session → ∀ test site value, base.heap.Holds value → base.recorder.sites.Takes site value →
    (session.trial TestSuite.executor site test value).1 = result test site value

variable {base session : Session TestSuite} {result : String → UInt32 → Value → TestResult}

theorem Tried.refl (sound : base.Sound) : Tried base base := ⟨.refl sound, .start⟩

theorem Tried.trial (h : Tried base session) {value : Value} (held : base.heap.Holds value) (site : UInt32)
    (test : String) :
    Tried base (session.trial TestSuite.executor site test value).2 :=
  ⟨h.toContinues.trans (h.sound.trial (held.later h.heap) site test), .trial site test (held.later h.heap) h.reached⟩

/-- The search at one site stops at the first value that makes the test pass. -/
theorem tryAlternates_expected (judges : Judges base result) (test : String) (site : UInt32)
    (replaced : Value) {pool : List Value}
    (usable : ∀ value ∈ pool, base.heap.Holds value ∧ base.recorder.sites.Takes site value)
    (h : Tried base session) :
    (tryAlternates TestSuite.executor test site replaced pool session).1 = .expected result
      [⟨test, site, replaced, pool⟩] ∧
      Tried base (tryAlternates TestSuite.executor test site replaced pool session).2 := by
  induction pool generalizing session with
  | nil => exact ⟨rfl, h⟩
  | cons alternate rest ih =>
    obtain ⟨held, takes⟩ := usable alternate (List.mem_cons_self ..)
    have judged := judges session h test site alternate held takes
    have next := h.trial held site test
    have later := ih (fun value member => usable value (List.mem_cons_of_mem _ member)) next
    rw [tryAlternates]
    generalize session.trial TestSuite.executor site test alternate = outcome at judged next later
    obtain ⟨verdict, after⟩ := outcome
    dsimp only at judged next later
    cases verdict with
    | pass => exact ⟨(Findings.expected_of_pass rest judged.symm).symm, next⟩
    | fail reason =>
      rw [Findings.expected_of_fail rest judged.symm, ← later.1]
      exact ⟨rfl, later.2⟩
    | inconclusive reason =>
      rw [Findings.expected_of_inconclusive rest judged.symm, ← later.1]
      exact ⟨rfl, later.2⟩

/-- What the profiles hold of a session's own, and can be tried at their sites. -/
def Lists (base : Session TestSuite) (profiles : List Profile) : Prop :=
  ∀ profile ∈ profiles, ∀ observation ∈ profile.latest, base.heap.Holds observation.value

/-- Every value a subject offers is held and taken by its site. -/
theorem usable_of_subject? {profiles : List Profile} {profile : Profile} {site : UInt32} {subject : Subject}
    (listed : base.Lists profiles) (found : base.recorder.sites.subject? profiles profile site = some subject) :
    ∀ value ∈ subject.pool, base.heap.Holds value ∧ base.recorder.sites.Takes subject.site value := by
  unfold SiteTable.subject? at found
  split at found
  · rename_i first known _ inTable
    cases found
    intro value member
    obtain ⟨fits, profile, inProfiles, observation, observed, rfl⟩ := mem_alternateValues member
    exact ⟨listed profile inProfiles observation observed, known, inTable, fits⟩
  · cases found

/-- Trying the sites of a profile one after the other finds what lone trials find. -/
theorem trySites_expected (judges : Judges base result) {profiles : List Profile}
    (listed : base.Lists profiles) (profile : Profile) (sites : List UInt32) (h : Tried base session) :
    (trySites TestSuite.executor profiles profile sites session).1 =
        .expected result (sites.filterMap (base.recorder.sites.subject? profiles profile)) ∧
      Tried base (trySites TestSuite.executor profiles profile sites session).2 := by
  induction sites generalizing session with
  | nil => exact ⟨rfl, h⟩
  | cons site rest ih =>
    unfold trySites
    rw [List.filterMap_cons, h.sites]
    cases seen : profile.first? site with
    | none =>
      simp only [SiteTable.subject?, seen]
      exact ih h
    | some first =>
      cases known : base.recorder.sites.get? site with
      | none =>
        simp only [SiteTable.subject?, seen, known]
        exact ih h
      | some declared =>
        have found : base.recorder.sites.subject? profiles profile site =
            some ⟨profile.test, site, first.value, alternateValues profiles site declared.type first.value⟩ := by
          simp only [SiteTable.subject?, seen, known]
        obtain ⟨here, next⟩ :=
          tryAlternates_expected judges profile.test site first.value (usable_of_subject? listed found) h
        obtain ⟨later, last⟩ := ih next
        rw [found]
        dsimp only
        rw [here, later, Findings.expected_cons _ (rest.filterMap _)]
        exact ⟨rfl, last⟩

/-- Trying the failing tests one after the other finds what lone trials find. -/
theorem tryTests_expected (judges : Judges base result) {profiles : List Profile}
    (listed : base.Lists profiles) (tests : List String)
    (stored : ∀ test ∈ tests, profiles.find? (·.test = test) = base.recorder.profiles.get? test)
    (h : Tried base session) :
    (tryTests TestSuite.executor profiles tests session).1 =
        .expected result (tests.flatMap fun test => (base.recorder.profiles.get? test).toList.flatMap fun profile =>
          profile.sites.filterMap (base.recorder.sites.subject? profiles profile)) ∧
      Tried base (tryTests TestSuite.executor profiles tests session).2 := by
  induction tests generalizing session with
  | nil => exact ⟨rfl, h⟩
  | cons test rest ih =>
    have others : ∀ other ∈ rest, profiles.find? (·.test = other) = base.recorder.profiles.get? other :=
      fun other member => stored other (List.mem_cons_of_mem _ member)
    unfold tryTests
    rw [stored test (List.mem_cons_self ..), List.flatMap_cons]
    cases base.recorder.profiles.get? test with
    | none => exact ih others h
    | some profile =>
      obtain ⟨here, next⟩ := trySites_expected judges listed profile profile.sites h
      obtain ⟨later, last⟩ := ih others next
      dsimp only
      rw [here, later, Option.toList_some, List.flatMap_singleton, Findings.expected_append]
      exact ⟨rfl, last⟩

theorem lists_baselineProfiles (sound : session.Sound) (baseline : Baseline) :
    session.Lists (session.baselineProfiles baseline) := by
  intro profile member
  obtain ⟨entry, _, found⟩ := List.mem_filterMap.1 member
  exact fun observation observed => ((sound.profiles entry.1 profile found).2 observation observed).2

/-- The profile of a test of the baseline is the one stored for it. -/
theorem find?_baselineProfiles (sound : session.Sound) {baseline : Baseline} {test : String}
    (listed : test ∈ baseline.failing) :
    (session.baselineProfiles baseline).find? (·.test = test) = session.recorder.profiles.get? test := by
  cases found : (session.baselineProfiles baseline).find? (·.test = test) with
  | some profile =>
    obtain ⟨entry, _, stored⟩ := List.mem_filterMap.1 (List.mem_of_find?_eq_some found)
    have named : profile.test = test := by simpa using List.find?_some found
    rw [← named, (sound.profiles entry.1 profile stored).1, stored]
  | none =>
    cases stored : session.recorder.profiles.get? test with
    | none => rfl
    | some profile =>
      obtain ⟨entry, kept, rfl⟩ := List.mem_map.1 listed
      have member : profile ∈ session.baselineProfiles baseline :=
        List.mem_filterMap.2 ⟨entry, (List.mem_filter.1 kept).1, stored⟩
      exact absurd (sound.profiles entry.1 profile stored).1
        (by simpa using List.find?_eq_none.1 found profile member)

/-- The search finds what it would find if the trials knew nothing of each other. -/
theorem search_expected (judges : Judges base result) (sound : base.Sound) (replaying : base.recorder.mode = .replay)
    (baseline : Baseline) (h : Tried base (session.inMode .replay)) :
    (search TestSuite.executor baseline session).1 = .expected result (base.subjects baseline) ∧
      ∃ last, Tried base last ∧ (search TestSuite.executor baseline session).2 = last.inMode .recording := by
  have same : session.recorder.profiles = base.recorder.profiles := h.replayed replaying
  have profiles : session.baselineProfiles baseline = base.baselineProfiles baseline := by
    simp only [baselineProfiles, same]
  obtain ⟨found, last⟩ := tryTests_expected judges (lists_baselineProfiles sound baseline) baseline.failing
    (fun test listed => find?_baselineProfiles sound listed) h
  unfold search
  rw [profiles]
  exact ⟨found, _, last, rfl⟩

/-- Between two searches, nothing changes that the second one depends on. -/
theorem Tried.resume (h : Tried base session) (replaying : base.recorder.mode = .replay) :
    Tried base ((session.inMode .recording).inMode .replay) :=
  ⟨⟨⟨h.suite, h.sites, h.heap, h.sound.inMode _⟩, replaying.symm, h.replayed⟩, .mode _ (.mode _ h.reached)⟩

end Session

theorem Localizer.search_of_baseline {ε : Type} (executor : Executor ε) {localizer : Localizer ε}
    {baseline : Baseline} (ready : localizer.baseline = some baseline) :
    localizer.search executor = .ok ((baseline, (localizer.session.search executor baseline).1),
      { localizer with session := (localizer.session.search executor baseline).2 }) := by
  rw [search, ready]

end Faultline
