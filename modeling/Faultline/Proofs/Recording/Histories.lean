import Faultline.Proofs.Recording.Requests
import Mathlib.Data.List.Induction

namespace Faultline

/-- A value that a hook call shows at a site. -/
structure Sight where
  site : UInt32
  type : ValueType
  value : Value
deriving DecidableEq

/-- Values seen one after the other as observations, each with the number of earlier ones at its site. -/
def numbered (sights : List Sight) : List Observation :=
  sights.mapIdx fun index sight =>
    ⟨sight.site, .ofNat ((sights.take index).countP (·.site = sight.site)), sight.type, sight.value⟩

theorem numbered_concat (sights : List Sight) (sight : Sight) :
    numbered (sights ++ [sight]) =
      numbered sights ++ [⟨sight.site, .ofNat (sights.countP (·.site = sight.site)), sight.type, sight.value⟩] := by
  unfold numbered
  rw [List.mapIdx_concat, List.take_left]
  congr 1
  refine List.mapIdx_eq_mapIdx_iff.2 fun index inside => ?_
  rw [List.take_append_of_le_length (Nat.le_of_lt inside)]

/-- A test's profile that lists the given sights and no other, in order. -/
structure Profile.Shows (test : String) (sights : List Sight) (profile : Profile) : Prop where
  test : profile.test = test
  observations : profile.observations = numbered sights
  occurrences : ∀ site, profile.occurrences site = .ofNat (sights.countP (·.site = site))

theorem Profile.Shows.empty (test : String) : Profile.Shows test [] (.empty test) := ⟨rfl, rfl, fun _ => rfl⟩

/-- One more observation with the next ordinal shows one more sight. -/
theorem Profile.Shows.appends {test : String} {sights : List Sight} {earlier profile : Profile}
    (h : earlier.Shows test sights) {site : UInt32} {type : ValueType} {value : Value}
    (appends : earlier.Appends ⟨site, earlier.occurrences site, type, value⟩ profile) :
    profile.Shows test (sights ++ [⟨site, type, value⟩]) := by
  refine ⟨appends.test.trans h.test, ?_, fun other => ?_⟩
  · rw [appends.observations, numbered_concat, h.observations, h.occurrences]
  · rw [appends.occurrences, List.countP_append, List.countP_singleton]
    by_cases here : other = site
    · simp [here, h.occurrences, UInt32.ofNat_add]
    · simp [here, h.occurrences, Ne.symm here]

/-- The last of the events of a kind, with those that came after it. -/
structure LastOf {α : Type} (kind : α → Prop) (events : List α) (event : α) (since : List α) : Prop where
  split : ∃ before, events = before ++ event :: since
  here : kind event
  none : ∀ later ∈ since, ¬ kind later

theorem LastOf.of_kind {α : Type} {kind : α → Prop} {event : α} (events : List α) (here : kind event) :
    LastOf kind (events ++ [event]) event [] :=
  ⟨⟨events, rfl⟩, here, fun _ member => absurd member List.not_mem_nil⟩

theorem LastOf.concat {α : Type} {kind : α → Prop} {events since : List α} {event later : α}
    (h : LastOf kind events event since) (other : ¬ kind later) :
    LastOf kind (events ++ [later]) event (since ++ [later]) := by
  obtain ⟨⟨before, rfl⟩, here, none⟩ := h
  refine ⟨⟨before, by simp⟩, here, fun some member => ?_⟩
  rcases List.mem_append.1 member with earlier | last
  · exact none some earlier
  · exact List.mem_singleton.1 last ▸ other

namespace Recorder

/-- A request with the recorder that it is made to. -/
structure Event where
  recorder : Recorder
  request : Request

/-- Requests one after the other, each made to what the earlier ones leave. -/
def events (recorder : Recorder) : List Request → List Event
  | [] => []
  | request :: rest => ⟨recorder, request⟩ :: events (request.perform recorder) rest

theorem events_concat (recorder : Recorder) (requests : List Request) (request : Request) :
    recorder.events (requests ++ [request]) = recorder.events requests ++
      [⟨recorder.performAll requests, request⟩] := by
  induction requests generalizing recorder with
  | nil => rfl
  | cons first rest ih =>
    rw [List.cons_append, events, ih]
    rfl

namespace Event

/-- Whether a profile of the test starts anew: a recorded run of it begins, or its profile is taken away. -/
def Resets (test : String) (event : Event) : Prop :=
  event.recorder.mode = .recording ∧ event.request = .beginTest test ∨ event.request = .takeProfile test

/-- Whether a replay of a test begins. -/
def Replays (test : String) (event : Event) : Prop := event.recorder.mode = .replay ∧ event.request = .beginTest test

/-- What a hook call shows, if the recorder accepts it. -/
def sight? (event : Event) : Option Sight :=
  match event.request with
  | .observe point value heap =>
    match (observe point value event.recorder heap).1 with
    | .ok _ => some ⟨point.site, point.type, (heap.copy value).1⟩
    | .error _ => none
  | _ => none

end Event

/-- What successful hook calls show in recorded runs of a test. -/
def sightsOf (test : String) (events : List Event) : List Sight :=
  (events.filter fun event => event.recorder.mode = .recording ∧ event.recorder.current = some test).filterMap
    Event.sight?

/-- What successful hook calls show in replays. -/
def sightsInReplay (events : List Event) : List Sight :=
  (events.filter fun event => event.recorder.mode = .replay).filterMap Event.sight?

/-- Whether what is kept of a test is what was seen since its profile last started anew. A test of which
nothing is kept yet is not being recorded. -/
def KeptOf (test : String) (events : List Event) (recorder : Recorder) : Prop :=
  (∃ reset since, LastOf (Event.Resets test) events reset since ∧
    ((recorder.profiles.get? test).getD (.empty test)).Shows test (sightsOf test since)) ∨
  recorder.profiles.get? test = none ∧ ¬ (recorder.mode = .recording ∧ recorder.current = some test)

/-- Whether what is kept of a replay is what was seen since the last one began. -/
def KeptInReplay (events : List Event) (recorder : Recorder) : Prop :=
  (∃ test begun since profile, LastOf (fun event => ∃ test, event.Replays test) events begun since ∧
    begun.Replays test ∧ recorder.replay = some profile ∧ profile.Shows test (sightsInReplay since)) ∨
  recorder.replay = none ∧ ¬ (recorder.mode = .replay ∧ recorder.current.isSome)

section Concat

variable {events : List Event} {event : Event} {recorder later : Recorder} {test : String}

/-- One more event adds what it shows, if it counts. -/
theorem filterMap_sight_concat (counts : Event → Prop) [DecidablePred counts] (since : List Event) :
    ((since ++ [event]).filter counts).filterMap Event.sight? =
      (since.filter counts).filterMap Event.sight? ++ if counts event then event.sight?.toList else [] := by
  rw [List.filter_append, List.filterMap_append]
  congr 1
  by_cases here : counts event
  · cases seen : event.sight? <;> simp [here, seen]
  · simp only [List.filter_cons, decide_eq_true_eq, if_neg here, List.filter_nil, List.filterMap_nil]

theorem sightsOf_concat (since : List Event) : sightsOf test (since ++ [event]) =
    sightsOf test since ++ if event.recorder.mode = .recording ∧
    event.recorder.current = some test then event.sight?.toList else [] :=
  filterMap_sight_concat _ since

theorem sightsInReplay_concat (since : List Event) : sightsInReplay (since ++ [event]) =
    sightsInReplay since ++ if event.recorder.mode = .replay then event.sight?.toList else [] :=
  filterMap_sight_concat _ since

theorem KeptOf.reset (events : List Event) (resets : event.Resets test)
    (empty : (later.profiles.get? test).getD (.empty test) = .empty test) : KeptOf test (events ++ [event]) later :=
  Or.inl ⟨event, [], .of_kind events resets, by rw [empty]; exact .empty test⟩

/-- An event that neither resets a test nor is seen in it leaves what is kept of the test. -/
theorem KeptOf.quiet (h : KeptOf test events recorder) (other : ¬ event.Resets test)
    (unseen : event.recorder.mode = .recording → event.recorder.current = some test → event.sight? = none)
    (same : later.profiles.get? test = recorder.profiles.get? test)
    (running : later.mode = .recording → later.current = some test → recorder.mode = .recording ∧
      recorder.current = some test) :
    KeptOf test (events ++ [event]) later := by
  rcases h with ⟨reset, since, last, shows⟩ | ⟨absent, idle⟩
  · refine Or.inl ⟨reset, _, last.concat other, ?_⟩
    rw [same, sightsOf_concat]
    split
    · rename_i counts
      rwa [unseen counts.1 counts.2, Option.toList_none, List.append_nil]
    · rwa [List.append_nil]
  · exact Or.inr ⟨same.trans absent, fun now => idle (running now.1 now.2)⟩

/-- A sight accepted while a test is recorded is appended to what is kept of the test. -/
theorem KeptOf.appends (h : KeptOf test events recorder) (recording : recorder.mode = .recording)
    (current : recorder.current = some test) (here : event.recorder = recorder) (other : ¬ event.Resets test)
    {site : UInt32} {type : ValueType} {value : Value} (seen : event.sight? = some ⟨site, type, value⟩)
    {profile : Profile} (appends : ((recorder.profiles.get? test).getD (.empty test)).Appends
      ⟨site, ((recorder.profiles.get? test).getD (.empty test)).occurrences site, type, value⟩ profile)
    (stored : later.profiles.get? test = some profile) : KeptOf test (events ++ [event]) later := by
  obtain ⟨reset, since, last, shows⟩ := h.resolve_right fun idle => idle.2 ⟨recording, current⟩
  refine Or.inl ⟨reset, _, last.concat other, ?_⟩
  rw [stored, Option.getD_some, sightsOf_concat, here, if_pos ⟨recording, current⟩, seen, Option.toList_some]
  exact shows.appends appends

theorem KeptInReplay.begin (events : List Event) (begins : event.Replays test)
    (empty : later.replay = some (.empty test)) :
    KeptInReplay (events ++ [event]) later :=
  Or.inl ⟨test, event, [], _, .of_kind events ⟨test, begins⟩, begins, empty, .empty test⟩

/-- An event that neither begins a replay nor is seen in it leaves what the replay keeps. -/
theorem KeptInReplay.quiet (h : KeptInReplay events recorder) (other : ∀ test, ¬ event.Replays test)
    (unseen : event.recorder.mode = .replay → event.sight? = none) (same : later.replay = recorder.replay)
    (running : later.mode = .replay → later.current.isSome → recorder.mode = .replay ∧ recorder.current.isSome) :
    KeptInReplay (events ++ [event]) later := by
  rcases h with ⟨test, begun, since, profile, last, begins, stored, shows⟩ | ⟨absent, idle⟩
  · refine Or.inl ⟨test, begun, _, profile, last.concat fun ⟨test, begins⟩ => other test begins, begins,
      same.trans stored, ?_⟩
    rw [sightsInReplay_concat]
    split
    · rename_i counts
      rwa [unseen counts, Option.toList_none, List.append_nil]
    · rwa [List.append_nil]
  · exact Or.inr ⟨same.trans absent, fun now => idle (running now.1 now.2)⟩

/-- A sight accepted in replay is appended to what the replay keeps. -/
theorem KeptInReplay.appends (h : KeptInReplay events recorder) (replaying : recorder.mode = .replay)
    (current : recorder.current = some test) (here : event.recorder = recorder)
    (other : ∀ test, ¬ event.Replays test) {site : UInt32} {type : ValueType} {value : Value}
    (seen : event.sight? = some ⟨site, type, value⟩) {profile : Profile}
    (appends : (recorder.replay.getD (.empty test)).Appends
      ⟨site, (recorder.replay.getD (.empty test)).occurrences site, type, value⟩ profile)
    (stored : later.replay = some profile) : KeptInReplay (events ++ [event]) later := by
  obtain ⟨label, begun, since, earlier, last, begins, before, shows⟩ :=
    h.resolve_right fun idle => idle.2 ⟨replaying, current ▸ rfl⟩
  rw [before, Option.getD_some] at appends
  refine Or.inl ⟨label, begun, _, profile, last.concat fun ⟨test, begins⟩ => other test begins, begins, stored, ?_⟩
  rw [sightsInReplay_concat, here, if_pos replaying, seen, Option.toList_some]
  exact shows.appends appends

end Concat

/-- What is kept of tests and of a replay is what was seen in single runs of them. -/
structure Tells (events : List Event) (recorder : Recorder) : Prop where
  recorded : ∀ test, KeptOf test events recorder
  replayed : KeptInReplay events recorder

variable {events : List Event} {recorder later : Recorder}

theorem Tells.start (table : SiteTable) : Tells [] (.new table) :=
  ⟨fun _ => Or.inr ⟨rfl, fun running => nomatch running.2⟩, Or.inr ⟨rfl, fun running => nomatch running.2⟩⟩

/-- A request that concerns neither the profiles nor a run that goes on. -/
theorem Tells.quiet (h : Tells events recorder) {request : Request}
    (unseen : (Event.mk recorder request).sight? = none)
    (other : ∀ test, request ≠ .beginTest test ∧ request ≠ .takeProfile test)
    (profiles : later.profiles = recorder.profiles) (replay : later.replay = recorder.replay)
    (running : later.current = none ∨ later.mode = recorder.mode ∧ later.current = recorder.current) :
    Tells (events ++ [⟨recorder, request⟩]) later := by
  refine ⟨fun test => (h.recorded test).quiet ?_ (fun _ _ => unseen) (by rw [profiles]) ?_,
    h.replayed.quiet (fun test replays => (other test).1 replays.2) (fun _ => unseen) replay ?_⟩
  · rintro (⟨_, begins⟩ | takes)
    · exact (other test).1 begins
    · exact (other test).2 takes
  · rintro recording current
    rcases running with ended | ⟨mode, same⟩
    · rw [ended] at current
      cases current
    · exact ⟨mode ▸ recording, same ▸ current⟩
  · rintro replaying current
    rcases running with ended | ⟨mode, same⟩
    · rw [ended] at current
      cases current
    · exact ⟨mode ▸ replaying, same ▸ current⟩

/-- A test that begins resets its own profile, or the one of the replay, and no other. -/
theorem Tells.beginTest (h : Tells events recorder) (test : String) :
    Tells (events ++ [⟨recorder, .beginTest test⟩]) (recorder.beginTest test) := by
  have unseen : (Event.mk recorder (.beginTest test)).sight? = none := rfl
  have other : ∀ label, label ≠ test → ¬ (Event.mk recorder (.beginTest test)).Resets label := by
    rintro label away (⟨_, begins⟩ | takes)
    · exact away (Request.beginTest.inj begins).symm
    · cases takes
  unfold Recorder.beginTest
  cases mode : recorder.mode with
  | recording =>
    refine ⟨fun label => ?_, h.replayed.quiet ?_ (fun _ => unseen) rfl ?_⟩
    · by_cases here : label = test
      · subst here
        exact .reset events (Or.inl ⟨mode, rfl⟩) (by rw [Table.get?_insert_self, Option.getD_some])
      · refine (h.recorded label).quiet (other label here) (fun _ _ => unseen)
          (by rw [Table.get?_insert, if_neg here]) ?_
        exact fun _ current => absurd (Option.some.inj current).symm here
    · rintro label ⟨replaying, _⟩
      rw [mode] at replaying
      cases replaying
    · intro replaying
      cases replaying
  | replay =>
    refine ⟨fun label => ?_, .begin events ⟨mode, rfl⟩ rfl⟩
    refine (h.recorded label).quiet ?_ (fun _ _ => unseen) rfl fun recording => by cases recording
    rintro (⟨recording, _⟩ | takes)
    · rw [mode] at recording
      cases recording
    · cases takes

/-- A profile that is taken is gone, as after a reset, and no other is touched. -/
theorem Tells.takeProfile (h : Tells events recorder) (test : String) :
    Tells (events ++ [⟨recorder, .takeProfile test⟩]) (recorder.takeProfile test).2 := by
  have unseen : (Event.mk recorder (.takeProfile test)).sight? = none := rfl
  refine ⟨fun label => ?_, h.replayed.quiet (fun _ begins => nomatch begins.2)
    (fun _ => unseen) rfl fun mode current => ⟨mode, current⟩⟩
  by_cases here : label = test
  · subst here
    refine .reset events (Or.inr rfl) ?_
    rw [Recorder.takeProfile, Table.get?_erase, if_pos rfl, Option.getD_none]
  · refine (h.recorded label).quiet ?_ (fun _ _ => unseen) ?_ fun mode current => ⟨mode, current⟩
    · rintro (⟨_, begins⟩ | takes)
      · cases begins
      · exact here (Request.takeProfile.inj takes).symm
    · rw [Recorder.takeProfile, Table.get?_erase, if_neg here]

/-- A hook call appends to what is kept of the running test, or is not accepted and changes nothing. -/
theorem Tells.observe (h : Tells events recorder) (point : HookPoint) (value : Value) (heap : Heap) :
    Tells (events ++ [⟨recorder, .observe point value heap⟩]) (Recorder.observe point value recorder heap).2.1 := by
  have resetting : ∀ test, ¬ (Event.mk recorder (.observe point value heap)).Resets test := by
    rintro test (⟨_, begins⟩ | takes)
    · cases begins
    · cases takes
  have replays : ∀ test, ¬ (Event.mk recorder (.observe point value heap)).Replays test := fun _ begins =>
    nomatch begins.2
  have responds := observe_responds recorder point value heap
  have sight : (Event.mk recorder (.observe point value heap)).sight? =
      match (Recorder.observe point value recorder heap).1 with
      | .ok _ => some ⟨point.site, point.type, (heap.copy value).1⟩
      | .error _ => none := rfl
  generalize Recorder.observe point value recorder heap = outcome at responds sight
  cases responds with
  | refused =>
    exact h.quiet sight (fun _ => ⟨Request.noConfusion, Request.noConfusion⟩) rfl rfl (Or.inr ⟨rfl, rfl⟩)
  | @recorded test earlier profile _ recording running before appends =>
    refine ⟨fun label => ?_, h.replayed.quiet replays ?_ rfl fun mode current => ⟨mode, current⟩⟩
    · by_cases here : label = test
      · subst here
        subst before
        exact (h.recorded label).appends recording running rfl (resetting label) sight appends
          (Table.get?_insert_self ..)
      · refine (h.recorded label).quiet (resetting label) ?_ (by rw [Table.get?_insert, if_neg here])
          fun mode current => ⟨mode, current⟩
        intro _ current
        rw [running] at current
        exact absurd (Option.some.inj current).symm here
    · intro replaying
      rw [recording] at replaying
      cases replaying
  | @replayed test earlier profile _ replaying running before appends =>
    subst before
    refine ⟨fun label => ?_, h.replayed.appends replaying running rfl replays sight appends rfl⟩
    refine (h.recorded label).quiet (resetting label) ?_ rfl fun mode current => ⟨mode, current⟩
    intro recording
    rw [replaying] at recording
    cases recording

/-- Every request keeps to it, if modes are chosen between tests only. -/
theorem Tells.perform (h : Tells events recorder) (request : Request)
    (ordered : ∀ mode, request = .setMode mode → recorder.current = none) :
    Tells (events ++ [⟨recorder, request⟩]) (request.perform recorder) := by
  cases request with
  | setMode mode =>
    exact h.quiet rfl (fun _ => ⟨Request.noConfusion, Request.noConfusion⟩) rfl rfl (Or.inl (ordered mode rfl))
  | beginTest test => exact h.beginTest test
  | endTest => exact h.quiet rfl (fun _ => ⟨Request.noConfusion, Request.noConfusion⟩) rfl rfl (Or.inl rfl)
  | install site value =>
    obtain ⟨overrides, left⟩ := perform_install recorder site value
    rw [left]
    exact h.quiet rfl (fun _ => ⟨Request.noConfusion, Request.noConfusion⟩) rfl rfl (Or.inr ⟨rfl, rfl⟩)
  | uninstall site =>
    exact h.quiet rfl (fun _ => ⟨Request.noConfusion, Request.noConfusion⟩) rfl rfl (Or.inr ⟨rfl, rfl⟩)
  | clearOverrides =>
    exact h.quiet rfl (fun _ => ⟨Request.noConfusion, Request.noConfusion⟩) rfl rfl (Or.inr ⟨rfl, rfl⟩)
  | takeProfile test => exact h.takeProfile test
  | observe point value heap => exact h.observe point value heap

/-- In a replay, only taking a profile away changes the profiles of tests. -/
theorem perform_of_replaying (replaying : recorder.mode = .replay) {request : Request}
    (other : ∀ test, request ≠ .takeProfile test) : (request.perform recorder).profiles = recorder.profiles := by
  cases request with
  | beginTest test =>
    simp only [Request.perform, beginTest]
    split
    · rename_i recording
      rw [replaying] at recording
      cases recording
    · rfl
  | install site value =>
    obtain ⟨overrides, left⟩ := perform_install recorder site value
    rw [left]
  | takeProfile test => exact absurd rfl (other test)
  | observe point value heap =>
    have responds := observe_responds recorder point value heap
    simp only [Request.perform]
    generalize observe point value recorder heap = outcome at responds
    cases responds with
    | refused => rfl
    | recorded _ recording =>
      rw [replaying] at recording
      cases recording
    | replayed => rfl
  | _ => rfl

/-- The induction over the requests: whatever is kept was reset last by the event told, and shows the sights
since. -/
theorem Tells.performAll (table : SiteTable) {requests : List Request}
    (ordered : ∀ event ∈ (new table).events requests, ∀ mode, event.request = .setMode mode →
      event.recorder.current = none) :
    Tells ((new table).events requests) ((new table).performAll requests) := by
  induction requests using List.reverseRecOn with
  | nil => exact .start table
  | append_singleton requests request ih =>
    rw [events_concat] at ordered ⊢
    rw [performAll_concat]
    have earlier := ih fun event member => ordered event (List.mem_append_left _ member)
    exact earlier.perform request fun mode chosen =>
      ordered _ (List.mem_append_right _ (List.mem_singleton.2 rfl)) mode chosen

/-- Every profile is of a single run, if modes are chosen between tests only. That of a test lists what was
seen in recorded runs of it since the last of them began, or since its profile was taken away after that. That
of the replay lists what was seen in replays since the last of them began, and bears the name of its test.
Nothing that is asked for in a replay changes the profile of a test, apart from taking it away. -/
theorem profiles_of_single_runs {table : SiteTable} {requests : List Request}
    (ordered : ∀ event ∈ (new table).events requests, ∀ mode, event.request = .setMode mode →
      event.recorder.current = none) :
    (∀ test profile, ((new table).performAll requests).profiles.get? test = some profile →
      ∃ reset since, LastOf (Event.Resets test) ((new table).events requests) reset since ∧
        profile.Shows test (sightsOf test since)) ∧
    (∀ profile, ((new table).performAll requests).replay = some profile →
      ∃ test begun since, LastOf (fun event => ∃ test, event.Replays test) ((new table).events requests) begun since ∧
        begun.Replays test ∧ profile.Shows test (sightsInReplay since)) ∧
    ∀ event ∈ (new table).events requests, event.recorder.mode = .replay →
      (∀ test, event.request ≠ .takeProfile test) →
      (event.request.perform event.recorder).profiles = event.recorder.profiles := by
  have tells := Tells.performAll table ordered
  refine ⟨?_, ?_, fun event _ replaying other => perform_of_replaying replaying other⟩
  · intro test profile stored
    rcases tells.recorded test with ⟨reset, since, last, shows⟩ | ⟨absent, _⟩
    · rw [stored, Option.getD_some] at shows
      exact ⟨reset, since, last, shows⟩
    · rw [absent] at stored
      cases stored
  · intro profile stored
    rcases tells.replayed with ⟨test, begun, since, present, last, begins, kept, shows⟩ | ⟨absent, _⟩
    · rw [kept, Option.some.injEq] at stored
      exact ⟨test, begun, since, last, begins, stored ▸ shows⟩
    · rw [absent] at stored
      cases stored

/-- A table with one site. -/
def readingTable : SiteTable := .ofSites [⟨7, .int32, ⟨"tests", 3, 3, 5, 9⟩, "Tests::reads"⟩]

/-- The point at which the site is reached. -/
def readingPoint : HookPoint := ⟨7, .int32, ⟨"tests", 3, 3, 5, 9⟩⟩

/-- Two runs of a test and a replay of it, each with another value at the site. -/
def repeatedRuns : List Request :=
  [.beginTest "reads", .observe readingPoint (.int32 1) .empty, .beginTest "reads",
    .observe readingPoint (.int32 2) .empty,
    .endTest, .setMode .replay, .beginTest "reads", .observe readingPoint (.int32 3) .empty, .endTest]

/-- A test recorded twice and replayed: only the last run of each kind is kept. -/
theorem profiles_of_single_runs_repeated : ∃ profile replayed,
    ((new readingTable).performAll repeatedRuns).profiles.get? "reads" = some profile ∧
    ((new readingTable).performAll repeatedRuns).replay = some replayed ∧
    profile.observations = [⟨7, 0, .int32, .int32 2⟩] ∧ replayed.observations = [⟨7, 0, .int32, .int32 3⟩] ∧
    (∃ reset since, LastOf (Event.Resets "reads") ((new readingTable).events repeatedRuns) reset since ∧
      profile.Shows "reads" (sightsOf "reads" since)) ∧
    ∃ test begun since, LastOf (fun event => ∃ test, event.Replays test)
      ((new readingTable).events repeatedRuns) begun since ∧
      begun.Replays test ∧ replayed.Shows test (sightsInReplay since) := by
  have recorded : (((new readingTable).performAll repeatedRuns).profiles.get? "reads").map (·.observations) =
      some [⟨7, 0, .int32, .int32 2⟩] := by rfl
  have seen : ((new readingTable).performAll repeatedRuns).replay.map (·.observations) =
      some [⟨7, 0, .int32, .int32 3⟩] := by rfl
  obtain ⟨profile, stored, listed⟩ := Option.map_eq_some_iff.1 recorded
  obtain ⟨replayed, kept, shown⟩ := Option.map_eq_some_iff.1 seen
  have ordered : ∀ event ∈ (new readingTable).events repeatedRuns, ∀ mode, event.request = .setMode mode →
      event.recorder.current = none := by
    simp [repeatedRuns, events, Request.perform, endTest]
  obtain ⟨tests, replays, _⟩ := profiles_of_single_runs ordered
  exact ⟨profile, replayed, stored, kept, listed, shown, tests "reads" profile stored, replays replayed kept⟩

end Recorder

end Faultline
