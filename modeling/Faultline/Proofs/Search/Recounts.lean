import Faultline.Proofs.Search.Alternates
import Faultline.Proofs.Search.Showings

namespace Faultline

open Relation (ReflTransGen)

/-- Whether an observation is of what was shown, and has the content that this had then. -/
structure Observation.Of (heap : Heap) (showing : Showing) (observation : Observation) : Prop where
  site : observation.site = showing.point.site
  type : observation.type = showing.point.type
  content : Heap.SameContent showing.heap showing.value heap observation.value

/-- Observations that are kept have their content also after a step. -/
theorem Observation.Of.keeps_all {heap later : Heap} {own own' kept kept' : Nat → Prop} {shown : List Showing}
    {observations : List Observation}
    (told : List.Forall₂ (fun showing observation => Observation.Of heap showing observation) shown
      observations) (split : heap.Split own kept) (keeps : heap.Keeps own kept later own' kept')
    (within : ∀ observation ∈ observations, observation.value.Within kept) :
    List.Forall₂ (fun showing observation => Observation.Of later showing observation) shown observations := by
  refine List.forall₂_iff_zip.2 ⟨told.length_eq, fun {showing observation} paired => ?_⟩
  obtain ⟨site, type, content⟩ := (List.forall₂_iff_zip.1 told).2 paired
  exact ⟨site, type, content.trans (keeps.sameContent split (within _ (List.of_mem_zip paired).2))⟩

namespace Recorder

/-- The observation with the given index in the profile of a test. -/
def Has (recorder : Recorder) (test : String) (index : Nat) (observation : Observation) : Prop :=
  ∃ profile, recorder.profiles.get? test = some profile ∧ profile.observations[index]? = some observation

theorem Has.records {recorder : Recorder} {test : String} {index : Nat} {observation : Observation}
    (has : recorder.Has test index observation) : recorder.Records observation.value := by
  obtain ⟨profile, stored, there⟩ := has
  exact ⟨observation, .recorded stored (List.mem_of_getElem? there), rfl⟩

/-- Whether no two observations in the profiles of the tests have one object. -/
def Individual (recorder : Recorder) (tests : List String) : Prop :=
  ∀ test ∈ tests, ∀ test' ∈ tests, ∀ index observation reference index' observation' reference',
    recorder.Has test index observation → observation.value.reference? = some reference →
    recorder.Has test' index' observation' → observation'.value.reference? = some reference' →
    reference.id = reference'.id → test = test' ∧ index = index'

/-- What the profile of a running test says of what the run has shown so far. Every observation has an object
of its own, if any, which is not among the first `low`. -/
structure Recounts (recorder : Recorder) (test : String) (start : Recorder) (low : Nat) (heap : Heap)
    (shown : List Showing) : Prop where
  since : Since test start recorder
  testing : recorder.current = some test
  told : List.Forall₂ (fun showing observation => observation.Of heap showing) shown
    (recorder.written test).observations
  new : ∀ observation ∈ (recorder.written test).observations, ∀ reference,
    observation.value.reference? = some reference → low ≤ reference.id
  ascending : (recorder.written test).observations.Pairwise fun earlier later => ∀ reference reference',
    earlier.value.reference? = some reference → later.value.reference? = some reference' →
    reference.id < reference'.id

section Hook

variable {recorder start : Recorder} {test : String} {low : Nat} {heap later : Heap} {shown : List Showing}
  {point : HookPoint} {value : Value} {own own' kept kept' : Nat → Prop}

theorem records_of_mem_written {observation : Observation}
    (listed : observation ∈ (recorder.written test).observations) :
    recorder.Records observation.value := records_written (List.mem_reverse.1 listed)

theorem recounts_beginTest (recorder : Recorder) (test : String) (heap : Heap) :
    (recorder.beginTest test).Recounts test recorder low heap [] := by
  have written := written_beginTest recorder test
  refine ⟨since_beginTest .., current_beginTest .., ?_, ?_, ?_⟩ <;> rw [written]
  · exact .nil
  · exact fun _ listed => nomatch listed
  · exact .nil

/-- What is kept has its content also after a step that shows nothing. -/
theorem Recounts.stays (h : recorder.Recounts test start low heap shown) (apart : recorder.Apart own kept)
    (split : heap.Split own kept) (keeps : heap.Keeps own kept later own' kept') :
    recorder.Recounts test start low later shown :=
  ⟨h.since, h.testing, Observation.Of.keeps_all h.told split keeps fun _ listed =>
    apart.records _ (records_of_mem_written listed), h.new, h.ascending⟩

/-- A hook call that is accepted adds one observation, with a copy that is newer than everything before. -/
theorem Recounts.hook (h : recorder.Recounts test start low heap shown) (apart : recorder.Apart own kept)
    (split : heap.Split own kept) (older : low ≤ heap.size) (within : value.Within own)
    (accepted : recorder.Accepts point value) :
    (Recorder.hook point value recorder heap).2.1.Recounts test start low
      (Recorder.hook point value recorder heap).2.2
      (shown ++ [⟨point, value, heap⟩]) := by
  obtain ⟨_, running, taken, called⟩ := hook_of_accepts accepted heap
  rw [h.testing, Option.some.injEq] at running
  subst running
  obtain ⟨_, keeps, _⟩ := split.keep within
  have held := split.ownClosed.holds within
  have fresh : ∀ reference, (heap.copy value).1.reference? = some reference → heap.size ≤ reference.id :=
    fun reference found =>
    Heap.madeFor_new ((Heap.copy_within held).2 reference found)
  have same : (heap.copy value).1.isAssignable point.type = value.isAssignable point.type := Heap.isAssignable_copy ..
  have observations : ((recorder.keep test point value (heap.copy value).1).2.written test).observations =
      (recorder.written test).observations ++
      [⟨point.site, (recorder.written test).occurrences point.site, point.type,
        (heap.copy value).1⟩] := by
    rw [written_keep]
    exact (Profile.appends_record ..).observations
  rw [called]
  refine ⟨h.since.keep taken same, (current_keep ..).trans h.testing, ?_, ?_, ?_⟩ <;> rw [observations]
  · exact List.rel_append (h.stays apart split keeps).told (.cons ⟨rfl, rfl, held.copy⟩ .nil)
  · intro observation listed reference found
    rcases List.mem_append.1 listed with earlier | last
    · exact h.new observation earlier reference found
    · cases List.mem_singleton.1 last
      exact Nat.le_trans older (fresh reference found)
  · refine List.pairwise_append.2 ⟨h.ascending, List.pairwise_singleton .., ?_⟩
    intro observation listed _ last reference reference' found found'
    cases List.mem_singleton.1 last
    have inside := (split.keptClosed _ (apart.records _ (records_of_mem_written listed) reference found)).1
    exact Nat.lt_of_lt_of_le inside (fresh reference' found')

/-- No two observations of the run have one object. -/
theorem Recounts.unique (h : recorder.Recounts test start low heap shown) {index index' : Nat}
    {observation observation' : Observation} {reference reference' : Reference}
    (there : (recorder.written test).observations[index]? = some observation)
    (there' : (recorder.written test).observations[index']? = some observation')
    (refers : observation.value.reference? = some reference)
    (refers' : observation'.value.reference? = some reference')
    (same : reference.id = reference'.id) : index = index' := by
  obtain ⟨inside, here⟩ := List.getElem?_eq_some_iff.1 there
  obtain ⟨inside', here'⟩ := List.getElem?_eq_some_iff.1 there'
  have ascending := List.pairwise_iff_getElem.1 h.ascending
  rcases Nat.lt_trichotomy index index' with before | equal | after
  · have lower := ascending _ _ inside inside' before reference reference' (here ▸ refers) (here' ▸ refers')
    omega
  · exact equal
  · have lower := ascending _ _ inside' inside after reference' reference (here' ▸ refers') (here ▸ refers)
    omega

/-- An object on record is one of the run, newer than all before, or it was there when the run began. -/
theorem Recounts.dated (h : recorder.Recounts test start low heap shown) (mode : start.mode = .recording)
    (old : ∀ value, start.Records value → ∀ reference, value.reference? = some reference → reference.id < low)
    {other : String} {index : Nat} {observation : Observation} {reference : Reference}
    (has : recorder.Has other index observation) (refers : observation.value.reference? = some reference) :
    other = test ∧ low ≤ reference.id ∧ (recorder.written test).observations[index]? = some observation ∨
      other ≠ test ∧ reference.id < low ∧ start.Has other index observation := by
  obtain ⟨profile, found, there⟩ := has
  by_cases same : other = test
  · subst same
    rw [h.since.recorded mode, Option.some.injEq] at found
    subst found
    exact Or.inl ⟨rfl, h.new observation (List.mem_of_getElem? there) reference refers, there⟩
  · rw [h.since.others other same] at found
    have earlier : start.Has other index observation := ⟨profile, found, there⟩
    exact Or.inr ⟨same, old _ earlier.records reference refers, earlier⟩

/-- So one more run leaves every observation with an object of its own. -/
theorem Recounts.individual (h : recorder.Recounts test start low heap shown) (mode : start.mode = .recording)
    (old : ∀ value, start.Records value → ∀ reference, value.reference? = some reference → reference.id < low)
    {tests : List String} (before : start.Individual tests) : recorder.Individual (tests ++ [test]) := by
  have listed : ∀ {other}, other ∈ tests ++ [test] → other ≠ test → other ∈ tests := fun member away =>
    (List.mem_append.1 member).resolve_right fun last => away (List.mem_singleton.1 last)
  intro first member first' member' index observation reference index' observation' reference'
    has refers has' refers' same
  rcases h.dated mode old has refers with ⟨rfl, new, there⟩ | ⟨away, older, earlier⟩ <;>
    rcases h.dated mode old has' refers' with ⟨rfl, new', there'⟩ | ⟨away', older', earlier'⟩
  · exact ⟨rfl, h.unique there there' refers refers' same⟩
  · omega
  · omega
  · exact before first (listed member away) first' (listed member' away') index observation reference index'
      observation' reference' earlier refers earlier' refers' same

end Hook

end Recorder

variable {ε κ : Type}

section Runs

variable {process : Process ε κ} {rests : (Nat → Prop) → ε → Prop} {holds : (Nat → Prop) → κ → Prop}
  {shows : κ → HookPoint → Value → Prop} {own kept : Nat → Prop} {session later : Session ε} {test : String}
  {shown : List Showing} {runs : List (String × List Showing)}

/-- A session whose executor has hold of nothing that is on record. -/
structure Session.Apart (rests : (Nat → Prop) → ε → Prop) (own kept : Nat → Prop) (session : Session ε) : Prop where
  split : session.heap.Split own kept
  recorder : session.recorder.Apart own kept
  executor : rests own session.state

/-- The induction over a course: what the running test has observed are copies of what was shown, in order. -/
theorem Process.Course.recounts (confined : process.Confined rests holds) (tells : process.Tells holds shows)
    (apart : session.Apart rests own kept) {run : κ}
    (course : process.Course shows
      (process.start test session.state (session.recorder.beginTest test) session.heap) shown run) :
    ∃ own' kept', (process.heap run).Split own' kept' ∧ session.heap.Keeps own kept (process.heap run) own' kept' ∧
      (process.recorder run).Apart own' kept' ∧ holds own' run ∧
      (process.recorder run).Recounts test session.recorder session.heap.size (process.heap run) shown := by
  induction course with
  | start =>
    refine ⟨own, kept, ?_, ?_, ?_, confined.begins _ _ _ apart.executor, ?_⟩
    · rw [confined.heap]
      exact apart.split
    · rw [confined.heap]
      exact .refl
    · rw [confined.recorder]
      exact ⟨fun value listed => apart.recorder.records value listed.of_beginTest,
        fun value installed => apart.recorder.installs value installed.of_beginTest⟩
    · rw [confined.recorder, confined.heap]
      exact Recorder.recounts_beginTest ..
  | silent _ step same ih =>
    obtain ⟨own', kept', split, keeps, records, held, recounts⟩ := ih
    obtain ⟨own'', kept'', split', keeps', records', held'⟩ := confined.moves step split records held
    exact ⟨own'', kept'', split', keeps.trans keeps', records', held', same ▸ recounts.stays records split keeps'⟩
  | shows _ step showing accepted recorder heap ih =>
    obtain ⟨own', kept', split, keeps, records, held, recounts⟩ := ih
    obtain ⟨own'', kept'', split', keeps', records', held'⟩ := confined.moves step split records held
    have within := tells.within held split.ownClosed showing
    have more := recounts.hook records split keeps.size within accepted
    rw [← recorder, ← heap] at more
    exact ⟨own'', kept'', split', keeps.trans keeps', records', held', more⟩

/-- What the last of the runs of a test has shown. -/
def lastShown (runs : List (String × List Showing)) (test : String) : Option (List Showing) :=
  runs.reverse.lookup test

theorem lastShown_concat (runs : List (String × List Showing)) (test : String) (shown : List Showing)
    (other : String) :
    lastShown (runs ++ [(test, shown)]) other = if other = test then some shown else lastShown runs other := by
  rw [lastShown, List.reverse_append, List.reverse_singleton, List.singleton_append, List.lookup_cons]
  by_cases same : other = test <;> simp [same, lastShown, beq_eq_decide]

theorem isSome_lastShown : (lastShown runs test).isSome ↔ test ∈ runs.map (·.1) := by
  induction runs using List.reverseRecOn with
  | nil => simp [lastShown]
  | append_singleton runs run ih =>
    rw [lastShown_concat, List.map_append, List.mem_append, ← ih]
    by_cases same : test = run.1 <;> simp [same]

/-- What the profiles say of the runs that have been recorded. -/
structure Session.Recounts (session : Session ε) (runs : List (String × List Showing)) : Prop where
  mode : session.recorder.mode = .recording
  stored : ∀ test shown, lastShown runs test = some shown → ∃ profile,
    session.recorder.profiles.get? test = some profile ∧
    profile.test = test ∧ (∀ observation ∈ profile.latest, session.recorder.Knows observation) ∧
    List.Forall₂ (fun showing observation => observation.Of session.heap showing) shown profile.observations
  individual : session.recorder.Individual (runs.map (·.1))

/-- One more run leaves what the other tests have on record as it is, and gives new objects to its own test. -/
theorem Session.Recounts.run (confined : process.Confined rests holds) (tells : process.Tells holds shows)
    (apart : session.Apart rests own kept) (h : session.Recounts runs)
    (ran : process.Ran shows test session shown later) :
    (∃ own' kept', later.Apart rests own' kept' ∧ session.heap.Keeps own kept later.heap own' kept') ∧
      later.Recounts (runs ++ [(test, shown)]) := by
  obtain ⟨run, result, state, ended, rfl, course⟩ := ran
  obtain ⟨own', kept', split, keeps, records, held, recounts⟩ := course.recounts confined tells apart
  have since := recounts.since
  refine ⟨⟨own', kept',
    ⟨split, ⟨fun value listed => records.records value (listed.of_same rfl rfl), records.installs⟩,
    confined.returns ended split.ownClosed held⟩, keeps⟩, since.mode.trans h.mode, ?_, ?_⟩
  · intro other last found
    rw [lastShown_concat] at found
    split at found
    · rename_i same
      cases same
      cases found
      exact ⟨_, since.recorded h.mode, since.written.1, since.written.2, recounts.told⟩
    · rename_i away
      obtain ⟨profile, found, named, known, told⟩ := h.stored other last found
      refine ⟨profile, (since.others other away).trans found, named, fun observation listed => ?_, ?_⟩
      · obtain ⟨site, declared, fits⟩ := known observation listed
        exact ⟨site, since.sites ▸ declared, fits⟩
      · exact Observation.Of.keeps_all told apart.split keeps fun observation listed =>
          apart.recorder.records _ ⟨observation, .recorded found listed, rfl⟩
  · rw [List.map_append]
    exact recounts.individual h.mode
      (fun value listed reference refers =>
        (apart.split.keptClosed _ (apart.recorder.records value listed reference refers)).1)
      h.individual

/-- So it is after any number of runs. -/
theorem Session.Recounts.runAll (confined : process.Confined rests holds) (tells : process.Tells holds shows)
    {more : List (String × List Showing)} (all : process.RanAll shows session more later)
    (apart : session.Apart rests own kept) (h : session.Recounts runs) : later.Recounts (runs ++ more) := by
  induction all generalizing runs own kept with
  | nil => rwa [List.append_nil]
  | @cons _ _ _ test shown rest first _ ih =>
    obtain ⟨⟨own', kept', apart', _⟩, recounts⟩ := h.run confined tells apart first
    have done := ih apart' recounts
    rwa [List.append_assoc, List.singleton_append] at done

end Runs

end Faultline
