import Faultline.Proofs.Recording.HookProtocol
import Faultline.Proofs.Search.Sessions

namespace Faultline

/-- One use of a recorder. A hook call comes with the objects that there are at the moment. -/
inductive Recorder.Request where
  | setMode (mode : Mode)
  | beginTest (test : String)
  | endTest
  | install (site : UInt32) (value : Value)
  | uninstall (site : UInt32)
  | clearOverrides
  | takeProfile (test : String)
  | observe (point : HookPoint) (value : Value) (heap : Heap)

/-- A profile that lists one observation more than an earlier one. -/
structure Profile.Appends (earlier : Profile) (observation : Observation) (profile : Profile) : Prop where
  test : profile.test = earlier.test
  observations : profile.observations = earlier.observations ++ [observation]
  occurrences : ∀ site, profile.occurrences site =
    if site = observation.site then earlier.occurrences site + 1 else earlier.occurrences site

theorem Profile.appends_record (profile : Profile) (site : UInt32) (type : ValueType) (value : Value) :
    profile.Appends ⟨site, profile.occurrences site, type, value⟩ (profile.record site type value) := by
  refine ⟨rfl, observations_record .., fun other => ?_⟩
  rw [occurrences_record]
  by_cases here : other = site
  · rw [if_pos here, if_pos here, here]
  · rw [if_neg here, if_neg here]

/-- A profile that is made only when it is needed lists nothing before. -/
theorem Profile.stored_of_mem {stored : Option Profile} {test : String} {observation : Observation}
    (listed : observation ∈ (stored.getD (.empty test)).observations) :
    ∃ profile, stored = some profile ∧ observation ∈ profile.observations := by
  cases stored with
  | none => cases listed
  | some profile => exact ⟨profile, rfl, listed⟩

namespace Recorder

/-- What a request leaves of a recorder; an override that is refused leaves it as it was. -/
def Request.perform (recorder : Recorder) : Request → Recorder
  | setMode mode => { recorder with mode }
  | beginTest test => recorder.beginTest test
  | endTest => recorder.endTest
  | install site value => (recorder.install site value).toOption.getD recorder
  | uninstall site => recorder.uninstall site
  | clearOverrides => recorder.clearOverrides
  | takeProfile test => (recorder.takeProfile test).2
  | observe point value heap => (Recorder.observe point value recorder heap).2.1

/-- What requests leave of a recorder, one after the other. -/
def performAll (recorder : Recorder) (requests : List Request) : Recorder := requests.foldl Request.perform recorder

/-- An observation in one of the recorder's profiles. -/
inductive Lists (recorder : Recorder) (observation : Observation) : Prop
  | recorded {test : String} {profile : Profile} (stored : recorder.profiles.get? test = some profile)
      (listed : observation ∈ profile.observations) : Lists recorder observation
  | replayed {profile : Profile} (stored : recorder.replay = some profile)
      (listed : observation ∈ profile.observations) : Lists recorder observation

/-- A recorder for the sites of a table whose overrides and observations are of the types of their sites. -/
structure Conforms (table : SiteTable) (recorder : Recorder) : Prop extends Typed table recorder where
  observations : ∀ observation, recorder.Lists observation → recorder.Knows observation

/-- Whether a value is seen in a test, at a known site of the point's type, and is of the type. -/
def Accepts (recorder : Recorder) (point : HookPoint) (value : Value) : Prop :=
  recorder.current.isSome ∧ ∃ site, recorder.sites.get? point.site = some site ∧ site.type = point.type ∧
    value.isAssignable point.type

/-- The ways in which a recorder answers a hook call. It refuses, and nothing changes, or else it lists a copy
of the value in the profile that its mode writes to. -/
inductive Responds (recorder : Recorder) (point : HookPoint) (value : Value) (heap : Heap) :
    Except RecorderError Value × Recorder × Heap → Prop
  | refused (failure : RecorderError) (unfit : ¬ recorder.Accepts point value) :
      Responds recorder point value heap (.error failure, recorder, heap)
  | recorded {test : String} {earlier profile : Profile} (fits : recorder.Accepts point value)
      (recording : recorder.mode = .recording) (running : recorder.current = some test)
      (before : (recorder.profiles.get? test).getD (.empty test) = earlier)
      (appends : earlier.Appends ⟨point.site, earlier.occurrences point.site, point.type, (heap.copy value).1⟩
        profile) :
      Responds recorder point value heap
        (.ok value, { recorder with profiles := recorder.profiles.insert test profile }, (heap.copy value).2)
  | replayed {test : String} {earlier profile : Profile} (fits : recorder.Accepts point value)
      (replaying : recorder.mode = .replay)
      (running : recorder.current = some test) (before : recorder.replay.getD (.empty test) = earlier)
      (appends : earlier.Appends ⟨point.site, earlier.occurrences point.site, point.type, (heap.copy value).1⟩
        profile) :
      Responds recorder point value heap
        (.ok ((recorder.overrides.get? point.site).getD value), { recorder with replay := some profile },
          (heap.copy value).2)

variable {table : SiteTable} {recorder : Recorder}

theorem accept_of_accepts {point : HookPoint} {value : Value} (fits : recorder.Accepts point value) :
    ∃ test, recorder.current = some test ∧ recorder.accept point value = .ok test := by
  obtain ⟨running, site, known, typed, assignable⟩ := fits
  obtain ⟨test, current⟩ := Option.isSome_iff_exists.1 running
  refine ⟨test, current, ?_⟩
  simp only [accept, current, known, typed, bne_self_eq_false, Bool.false_eq_true, if_false, assignable, if_true]

theorem accepts_of_accept {point : HookPoint} {value : Value} {test : String}
    (accepted : recorder.accept point value = .ok test) :
    recorder.Accepts point value := by
  obtain ⟨current, site, known, typed, assignable⟩ := accept_ok accepted
  exact ⟨current ▸ rfl, site, known, typed, assignable⟩

/-- Whatever is shown, a recorder answers with the value, with an override or with a refusal. -/
theorem observe_responds (recorder : Recorder) (point : HookPoint) (value : Value) (heap : Heap) :
    recorder.Responds point value heap (observe point value recorder heap) := by
  unfold observe
  cases accepted : recorder.accept point value with
  | error failure =>
    refine .refused failure fun fits => ?_
    obtain ⟨test, _, taken⟩ := accept_of_accepts fits
    rw [accepted] at taken
    cases taken
  | ok test =>
    have running := (accept_ok accepted).1
    have fits := accepts_of_accept accepted
    obtain ⟨mode, sites, current, profiles, replay, overrides⟩ := recorder
    cases mode with
    | recording => exact .recorded fits rfl running rfl (Profile.appends_record ..)
    | replay => exact .replayed fits rfl running rfl (Profile.appends_record ..)

/-- The observations after a hook call are those before it and, if the call succeeds, the value that it shows. -/
theorem Responds.lists {point : HookPoint} {value : Value} {heap : Heap} {answer : Except RecorderError Value}
    {later : Recorder} {last : Heap} (responds : recorder.Responds point value heap (answer, later, last))
    {observation : Observation} (listed : later.Lists observation) :
    recorder.Lists observation ∨ recorder.Accepts point value ∧ observation.site = point.site ∧
      observation.type = point.type ∧
      observation.value = (heap.copy value).1 := by
  cases responds with
  | refused => exact Or.inl listed
  | @recorded test earlier profile fits _ _ before appends =>
    cases listed with
    | @recorded other _ stored listed =>
      rw [Table.get?_insert] at stored
      split at stored
      · cases stored
        rw [appends.observations, List.mem_append, List.mem_singleton] at listed
        rcases listed with older | rfl
        · obtain ⟨present, found, listed⟩ := Profile.stored_of_mem (before ▸ older)
          exact Or.inl (.recorded found listed)
        · exact Or.inr ⟨fits, rfl, rfl, rfl⟩
      · exact Or.inl (.recorded stored listed)
    | replayed stored listed => exact Or.inl (.replayed stored listed)
  | @replayed test earlier profile fits _ _ before appends =>
    cases listed with
    | recorded stored listed => exact Or.inl (.recorded stored listed)
    | replayed stored listed =>
      cases stored
      rw [appends.observations, List.mem_append, List.mem_singleton] at listed
      rcases listed with older | rfl
      · obtain ⟨present, found, listed⟩ := Profile.stored_of_mem (before ▸ older)
        exact Or.inl (.replayed found listed)
      · exact Or.inr ⟨fits, rfl, rfl, rfl⟩

/-- A test begins with an empty profile, so that no observation is added. -/
theorem Lists.of_beginTest {test : String} {observation : Observation}
    (listed : (recorder.beginTest test).Lists observation) :
    recorder.Lists observation := by
  unfold beginTest at listed
  split at listed
  · cases listed with
    | recorded stored listed =>
      rw [Table.get?_insert] at stored
      split at stored
      · cases stored
        cases listed
      · exact .recorded stored listed
    | replayed stored listed => exact .replayed stored listed
  · cases listed with
    | recorded stored listed => exact .recorded stored listed
    | replayed stored listed =>
      cases stored
      cases listed

/-- Taking a profile leaves only observations that were listed before. -/
theorem Lists.of_takeProfile {test : String} {observation : Observation}
    (listed : (recorder.takeProfile test).2.Lists observation) :
    recorder.Lists observation := by
  cases listed with
  | recorded stored listed =>
    rw [takeProfile, Table.get?_erase] at stored
    split at stored
    · cases stored
    · exact .recorded stored listed
  | replayed stored listed => exact .replayed stored listed

/-- Where sites and profiles are as they were, overrides can be what they want. -/
theorem Conforms.of_typed {later : Recorder} (h : Conforms table recorder) (typed : Typed table later)
    (profiles : ∀ observation, later.Lists observation → recorder.Lists observation) : Conforms table later := by
  refine ⟨typed, fun observation listed => ?_⟩
  rw [Knows, typed.sites, ← h.sites]
  exact h.observations observation (profiles observation listed)

/-- A hook call keeps a recorder to its table. -/
theorem Conforms.observe (h : Conforms table recorder) (point : HookPoint) (value : Value) (heap : Heap) :
    Conforms table (observe point value recorder heap).2.1 := by
  have responds := observe_responds recorder point value heap
  have typed : Typed table (Recorder.observe point value recorder heap).2.1 := h.toTyped.hook point value heap
  refine ⟨typed, fun observation listed => ?_⟩
  rw [Knows, typed.sites, ← h.sites]
  rcases responds.lists listed with older | ⟨⟨_, site, known, typed, fits⟩, atSite, ofType, copied⟩
  · exact h.observations observation older
  · rw [atSite, ofType, copied, Heap.isAssignable_copy]
    exact ⟨site, known, typed, fits⟩

/-- Every request keeps overrides and observations of the types of their sites. -/
theorem Conforms.perform (h : Conforms table recorder) (request : Request) :
    Conforms table (request.perform recorder) := by
  have same : ∀ {later : Recorder}, later.profiles = recorder.profiles → later.replay = recorder.replay →
      ∀ observation, later.Lists observation → recorder.Lists observation := by
    rintro later profiles replay observation (⟨stored, listed⟩ | ⟨stored, listed⟩)
    · exact .recorded (profiles ▸ stored) listed
    · exact .replayed (replay ▸ stored) listed
  cases request with
  | setMode mode => exact h.of_typed ⟨h.sites, h.overrides⟩ (same rfl rfl)
  | beginTest test => exact h.of_typed (h.toTyped.beginTest test) fun _ => .of_beginTest
  | endTest => exact h.of_typed ⟨h.sites, h.overrides⟩ (same rfl rfl)
  | install site value =>
    simp only [Request.perform]
    by_cases takes : recorder.sites.Takes site value
    · have installed := install_of_takes takes
      rw [installed]
      exact h.of_typed (h.toTyped.install installed) (same rfl rfl)
    · rw [install_of_not_takes takes]
      exact h
  | uninstall site => exact h.of_typed (h.toTyped.uninstall site) (same rfl rfl)
  | clearOverrides => exact h.of_typed h.toTyped.clearOverrides (same rfl rfl)
  | takeProfile test => exact h.of_typed ⟨h.sites, h.overrides⟩ fun _ => .of_takeProfile
  | observe point value heap => exact h.observe point value heap

theorem perform_install (recorder : Recorder) (site : UInt32) (value : Value) :
    ∃ overrides, (Request.install site value).perform recorder = { recorder with overrides } := by
  by_cases takes : recorder.sites.Takes site value
  · exact ⟨recorder.overrides.insert site value, by simp only [Request.perform, install_of_takes takes,
      Except.toOption, Option.getD_some]⟩
  · exact ⟨recorder.overrides, by simp only [Request.perform, install_of_not_takes takes, Except.toOption,
      Option.getD_none]⟩

theorem performAll_concat (recorder : Recorder) (requests : List Request) (request : Request) :
    recorder.performAll (requests ++ [request]) = request.perform (recorder.performAll requests) := by
  simp only [performAll, List.foldl_append, List.foldl_cons, List.foldl_nil]

theorem Conforms.new (table : SiteTable) : Conforms table (.new table) := by
  refine ⟨⟨rfl, fun _ _ found => by cases found⟩, ?_⟩
  rintro observation (⟨stored, _⟩ | ⟨stored, _⟩) <;> cases stored

theorem Conforms.performAll (h : Conforms table recorder) (requests : List Request) :
    Conforms table (recorder.performAll requests) := by
  induction requests generalizing recorder with
  | nil => exact h
  | cons request rest ih => exact ih (h.perform request)

/-- Whatever a new recorder has been asked to do, in any order, its overrides and observations are of the
types of their sites, and so it goes on: an override is installed exactly if its site takes it, a hook call
adds one observation exactly if it is accepted, and what is refused changes nothing. -/
theorem performAll_conforms (table : SiteTable) (requests : List Request) :
    let recorder := (new table).performAll requests
    recorder.sites = table ∧
    (∀ site value, recorder.overrides.get? site = some value → table.Takes site value) ∧
    (∀ observation, recorder.Lists observation → ∃ site, table.get? observation.site = some site ∧
      site.type = observation.type ∧ observation.value.isAssignable site.type) ∧
    (∀ site value, table.Takes site value →
      recorder.install site value = .ok { recorder with overrides := recorder.overrides.insert site value }) ∧
    (∀ site value, ¬ table.Takes site value →
      (∃ failure, recorder.install site value = .error failure) ∧
      (Request.install site value).perform recorder = recorder) ∧
    ∀ point value heap, recorder.Responds point value heap (Recorder.observe point value recorder heap) := by
  intro recorder
  have conforms : Conforms table recorder := (Conforms.new table).performAll requests
  refine ⟨conforms.sites, conforms.overrides, ?_, ?_, ?_, fun _ _ _ => observe_responds ..⟩
  · intro observation listed
    obtain ⟨site, known, typed, fits⟩ := conforms.observations observation listed
    exact ⟨site, conforms.sites ▸ known, typed, typed ▸ fits⟩
  · intro site value takes
    exact install_of_takes (conforms.sites ▸ takes)
  · intro site value refused
    have rejected : recorder.install site value = _ := install_of_not_takes (conforms.sites ▸ refused)
    refine ⟨⟨_, rejected⟩, ?_⟩
    simp only [Request.perform, rejected, Except.toOption, Option.getD_none]

end Recorder

end Faultline
