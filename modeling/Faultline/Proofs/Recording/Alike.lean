import Faultline.Proofs.Machine.Renaming
import Faultline.Recording.Recorder

namespace Faultline

/-- The same observation, but for the identities of objects. -/
structure Observation.Alike (pairing : Nat → Nat → Prop) (observation observation' : Observation) : Prop where
  site : observation'.site = observation.site
  ordinal : observation'.ordinal = observation.ordinal
  type : observation'.type = observation.type
  value : Value.Alike pairing observation.value observation'.value

theorem Observation.Alike.symm {pairing : Nat → Nat → Prop} {observation observation' : Observation}
    (h : Observation.Alike pairing observation observation') :
    Observation.Alike (fun x y => pairing y x) observation' observation :=
  ⟨h.site.symm, h.ordinal.symm, h.type.symm, h.value.symm⟩

theorem Observation.Alike.join {pairing pairing' : Nat → Nat → Prop} {origin observation observation' : Observation}
    (first : Observation.Alike pairing origin observation) (second : Observation.Alike pairing' origin observation') :
    Observation.Alike (fun x y => ∃ z, pairing z x ∧ pairing' z y) observation observation' :=
  ⟨second.site.trans first.site.symm, second.ordinal.trans first.ordinal.symm, second.type.trans first.type.symm,
    first.value.join second.value⟩

/-- Profiles of one test that list the same observations. -/
structure Profile.Alike (pairing : Nat → Nat → Prop) (profile profile' : Profile) : Prop where
  test : profile'.test = profile.test
  counts : profile'.counts = profile.counts
  latest : List.Forall₂ (Observation.Alike pairing) profile.latest profile'.latest

namespace Profile.Alike

variable {pairing pairing' : Nat → Nat → Prop} {profile profile' : Profile}

theorem mono (h : Profile.Alike pairing profile profile') (more : ∀ a b, pairing a b → pairing' a b) :
    Profile.Alike pairing' profile profile' :=
  ⟨h.test, h.counts, h.latest.imp fun _ _ same => ⟨same.site, same.ordinal, same.type, same.value.mono more⟩⟩

theorem empty (test : String) : Profile.Alike pairing (.empty test) (.empty test) := ⟨rfl, rfl, .nil⟩

/-- Profiles that list what a third one lists are alike. -/
theorem join {origin : Profile} (first : Profile.Alike pairing origin profile)
    (second : Profile.Alike pairing' origin profile') :
    Profile.Alike (fun x y => ∃ z, pairing z x ∧ pairing' z y) profile profile' := by
  refine ⟨second.test.trans first.test.symm, second.counts.trans first.counts.symm, ?_⟩
  exact (forall₂_join first.latest second.latest).imp fun _ _ ⟨_, here, here'⟩ => here.join here'

theorem record (h : Profile.Alike pairing profile profile') (site : UInt32) (type : ValueType) {value value' : Value}
    (alike : Value.Alike pairing value value') :
    Profile.Alike pairing (profile.record site type value) (profile'.record site type value') := by
  have same : profile'.occurrences site = profile.occurrences site := by
    rw [Profile.occurrences, Profile.occurrences, h.counts]
  refine ⟨h.test, ?_, .cons ⟨rfl, same, rfl, alike⟩ h.latest⟩
  simp only [Profile.record, same, h.counts]

end Profile.Alike

namespace Recorder

/-- What is accepted was seen in a test at a known site, and is of the site's type. -/
theorem accept_ok {recorder : Recorder} {point : HookPoint} {value : Value} {test : String}
    (accepted : recorder.accept point value = .ok test) :
    recorder.current = some test ∧ ∃ site, recorder.sites.get? point.site = some site ∧ site.type = point.type ∧
      value.isAssignable point.type := by
  unfold accept at accepted
  split at accepted
  · cases accepted
  · cases accepted
  · rename_i current site running known
    split at accepted
    · cases accepted
    · rename_i typed
      split at accepted
      · rename_i fits
        cases accepted
        exact ⟨running, site, known, by simpa using typed, fits⟩
      · cases accepted

/-- Recorders of one test and the same sites accept the same values. -/
theorem accept_alike {recorder recorder' : Recorder} {pairing : Nat → Nat → Prop} {value value' : Value}
    (current : recorder'.current = recorder.current) (sites : recorder'.sites = recorder.sites) (point : HookPoint)
    (alike : Value.Alike pairing value value') : recorder'.accept point value' = recorder.accept point value := by
  simp only [accept, current, sites, alike.isAssignable_eq, alike.describe_eq]

/-- The profile that goes on being written while a test runs. -/
def written (recorder : Recorder) (test : String) : Profile :=
  match recorder.mode with
  | .recording => (recorder.profiles.get? test).getD (.empty test)
  | .replay => recorder.replay.getD (.empty test)

/-- Whether an observation was made at a known site and is of the site's type. -/
def Knows (recorder : Recorder) (observation : Observation) : Prop :=
  ∃ site, recorder.sites.get? observation.site = some site ∧ site.type = observation.type ∧
    observation.value.isAssignable observation.type

/-- What a run of a test that began with `start` leaves of it, apart from the profile being written. -/
structure Since (test : String) (start recorder : Recorder) : Prop where
  mode : recorder.mode = start.mode
  sites : recorder.sites = start.sites
  overrides : recorder.overrides = start.overrides
  others : ∀ other ≠ test, recorder.profiles.get? other = start.profiles.get? other
  replayed : start.mode = .replay → recorder.profiles = start.profiles
  recorded : start.mode = .recording → recorder.profiles.get? test = some (recorder.written test)
  written : (recorder.written test).test = test ∧ ∀ observation ∈ (recorder.written test).latest,
    recorder.Knows observation

theorem written_keep (recorder : Recorder) (test : String) (point : HookPoint) (value observed : Value) :
    (recorder.keep test point value observed).2.written test =
      (recorder.written test).record point.site point.type observed := by
  unfold keep
  cases mode : recorder.mode with
  | recording => simp only [written, mode, Table.get?_insert_self, Option.getD_some]
  | replay => simp only [written, mode, Option.getD_some]

theorem sites_keep (recorder : Recorder) (test : String) (point : HookPoint) (value observed : Value) :
    (recorder.keep test point value observed).2.sites = recorder.sites := by
  unfold keep
  split <;> rfl

theorem current_keep (recorder : Recorder) (test : String) (point : HookPoint) (value observed : Value) :
    (recorder.keep test point value observed).2.current = recorder.current := by
  unfold keep
  split <;> rfl

/-- An accepted hook call is one more sighting since the start of the test. -/
theorem Since.keep {test : String} {start recorder : Recorder} (h : Since test start recorder)
    {point : HookPoint} {value : Value} (accepted : recorder.accept point value = .ok test) {observed : Value}
    (same : observed.isAssignable point.type = value.isAssignable point.type) :
    Since test start (recorder.keep test point value observed).2 := by
  obtain ⟨_, site, known, typed, fits⟩ := accept_ok accepted
  have written : ((recorder.keep test point value observed).2.written test).test = test ∧
      ∀ observation ∈ ((recorder.keep test point value observed).2.written test).latest,
        (recorder.keep test point value observed).2.Knows observation := by
    rw [written_keep]
    refine ⟨h.written.1, fun observation member => ?_⟩
    rw [Knows, sites_keep]
    rcases List.mem_cons.1 member with rfl | earlier
    · exact ⟨site, known, typed, same.trans fits⟩
    · exact h.written.2 observation earlier
  have now := written_keep recorder test point value observed
  unfold Recorder.keep at written now ⊢
  cases mode : recorder.mode with
  | recording =>
    simp only [mode] at written now ⊢
    refine ⟨mode.symm.trans h.mode, h.sites, h.overrides, ?_, ?_, ?_, written⟩
    · intro other away
      rw [Table.get?_insert, if_neg away]
      exact h.others other away
    · intro replaying
      rw [← h.mode, mode] at replaying
      cases replaying
    · intro _
      rw [Table.get?_insert_self, now, Recorder.written, mode]
  | replay =>
    simp only [mode] at written now ⊢
    refine ⟨mode.symm.trans h.mode, h.sites, h.overrides, h.others, h.replayed, ?_, written⟩
    intro recording
    rw [← h.mode, mode] at recording
    cases recording

theorem Since.endTest {test : String} {start recorder : Recorder} (h : Since test start recorder) :
    Since test start recorder.endTest :=
  ⟨h.mode, h.sites, h.overrides, h.others, h.replayed, h.recorded, h.written⟩

/-- Recorders in the middle of a run of one test, which have seen the same of it and substitute the same
values. What they keep of other runs is left open. -/
structure Beside (test : String) (start start' : Recorder) (pairing : Nat → Nat → Prop)
    (recorder recorder' : Recorder) :
    Prop where
  since : Since test start recorder
  since' : Since test start' recorder'
  current : recorder.current = some test
  current' : recorder'.current = some test
  mode : recorder'.mode = recorder.mode
  sites : recorder'.sites = recorder.sites
  written : Profile.Alike pairing (recorder.written test) (recorder'.written test)
  overrides : Table.Alike (Value.Alike pairing) recorder.overrides recorder'.overrides

namespace Beside

variable {test : String} {start start' : Recorder} {pairing grown : Nat → Nat → Prop} {recorder recorder' : Recorder}
  {heap heap' : Heap} {value value' : Value}

theorem mono (h : Beside test start start' pairing recorder recorder') (more : ∀ a b, pairing a b → grown a b) :
    Beside test start start' grown recorder recorder' :=
  ⟨h.since, h.since', h.current, h.current', h.mode, h.sites, h.written.mono more,
    h.overrides.mono fun _ _ same => same.mono more⟩

theorem accept (h : Beside test start start' pairing recorder recorder') (point : HookPoint)
    (alike : Value.Alike pairing value value') : recorder'.accept point value' = recorder.accept point value :=
  accept_alike (h.current'.trans h.current.symm) h.sites point alike

/-- Both keep what they see, and answer with the same override or else the value itself. -/
theorem keep (h : Beside test start start' pairing recorder recorder') {point : HookPoint}
    {observed observed' : Value} (alike : Value.Alike pairing value value')
    (copied : Value.Alike pairing observed observed') (accepted : recorder.accept point value = .ok test)
    (same : observed.isAssignable point.type = value.isAssignable point.type) :
    Value.Alike pairing (recorder.keep test point value observed).1 (recorder'.keep test point value' observed').1 ∧
      Beside test start start' pairing (recorder.keep test point value observed).2
        (recorder'.keep test point value' observed').2 := by
  have same' : observed'.isAssignable point.type = value'.isAssignable point.type := by
    rw [copied.isAssignable_eq, alike.isAssignable_eq, same]
  have since := h.since.keep accepted same
  have since' := h.since'.keep ((h.accept point alike).trans accepted) same'
  have written : Profile.Alike pairing ((recorder.keep test point value observed).2.written test)
      ((recorder'.keep test point value' observed').2.written test) := by
    rw [written_keep, written_keep]
    exact h.written.record point.site point.type copied
  have mode : (recorder'.keep test point value' observed').2.mode =
      (recorder.keep test point value observed).2.mode := by
    rw [since.mode, since'.mode, ← h.since.mode, ← h.since'.mode, h.mode]
  have sites :
      (recorder'.keep test point value' observed').2.sites = (recorder.keep test point value observed).2.sites := by
    rw [sites_keep, sites_keep, h.sites]
  have overrides : Table.Alike (Value.Alike pairing) (recorder.keep test point value observed).2.overrides
      (recorder'.keep test point value' observed').2.overrides := by
    rw [since.overrides, since'.overrides, ← h.since.overrides, ← h.since'.overrides]
    exact h.overrides
  refine ⟨?_, since, since', (current_keep ..).trans h.current, (current_keep ..).trans h.current', mode,
    sites, written, overrides⟩
  unfold Recorder.keep
  rw [h.mode]
  cases recorder.mode with
  | recording => exact alike
  | replay =>
    rcases h.overrides.get? point.site with ⟨absent, absent'⟩ | ⟨other, other', found, found', same⟩
    · simp only [absent, absent']
      exact alike
    · simp only [found, found']
      exact same

/-- What the hook does to a recorder does not depend on what the recorder keeps of other runs. -/
theorem hook (h : Beside test start start' pairing recorder recorder') (heaps : Heap.Paired pairing heap heap')
    (alike : Value.Alike pairing value value') (point : HookPoint) :
    ∃ answer answer' later later' last last' grown,
      Recorder.hook point value recorder heap = (answer, later, last) ∧
      Recorder.hook point value' recorder' heap' = (answer', later', last') ∧
      Agree Eq (Value.Alike grown) answer answer' ∧ Beside test start start' grown later later' ∧
      Heap.Paired grown last last' ∧ Heap.Evolves pairing heap heap' grown last last' := by
  have same := h.accept point alike
  simp only [Recorder.hook, observe, same]
  cases accepted : recorder.accept point value with
  | error failure => exact ⟨_, _, _, _, _, _, pairing, rfl, rfl, .error rfl, h, heaps, .refl⟩
  | ok current =>
    have running := (accept_ok accepted).1
    rw [h.current, Option.some.injEq] at running
    subst running
    obtain ⟨grown, copies, copied, evolves⟩ := heaps.copy alike
    obtain ⟨answers, kept⟩ :=
      (h.mono evolves.more).keep (alike.mono evolves.more) copied accepted (Heap.isAssignable_copy ..)
    exact ⟨_, _, _, _, _, _, grown, rfl, rfl, .ok answers, kept, copies, evolves⟩

end Beside

/-- A test that just began has nothing since its start. -/
theorem since_beginTest (recorder : Recorder) (test : String) : Since test recorder (recorder.beginTest test) := by
  unfold beginTest
  cases mode : recorder.mode with
  | recording =>
    refine ⟨mode.symm, rfl, rfl, ?_, ?_, ?_, ?_⟩
    · intro other away
      rw [Table.get?_insert, if_neg away]
    · intro replaying
      rw [mode] at replaying
      cases replaying
    · intro _
      simp only [written, Table.get?_insert_self, Option.getD_some]
    · simp only [written, Table.get?_insert_self, Option.getD_some]
      exact ⟨rfl, fun _ member => absurd member List.not_mem_nil⟩
  | replay =>
    refine ⟨mode.symm, rfl, rfl, fun _ _ => rfl, fun _ => rfl, ?_, rfl,
      fun _ member => absurd member List.not_mem_nil⟩
    intro recording
    rw [mode] at recording
    cases recording

theorem written_beginTest (recorder : Recorder) (test : String) :
    (recorder.beginTest test).written test = .empty test := by
  unfold beginTest
  cases recorder.mode with
  | recording => simp only [written, Table.get?_insert_self, Option.getD_some]
  | replay => rfl

theorem current_beginTest (recorder : Recorder) (test : String) : (recorder.beginTest test).current = some test := by
  unfold beginTest
  cases recorder.mode <;> rfl

/-- A run begins in the same way whatever the recorders keep of earlier runs. -/
theorem beside_beginTest {pairing : Nat → Nat → Prop} {recorder recorder' : Recorder} (test : String)
    (mode : recorder'.mode = recorder.mode) (sites : recorder'.sites = recorder.sites)
    (overrides : Table.Alike (Value.Alike pairing) recorder.overrides recorder'.overrides) :
    Beside test recorder recorder' pairing (recorder.beginTest test) (recorder'.beginTest test) := by
  have since := recorder.since_beginTest test
  have since' := recorder'.since_beginTest test
  refine ⟨since, since', current_beginTest .., current_beginTest .., ?_, ?_, ?_, ?_⟩
  · rw [since.mode, since'.mode, mode]
  · rw [since.sites, since'.sites, sites]
  · rw [written_beginTest, written_beginTest]
    exact .empty test
  · rw [since.overrides, since'.overrides]
    exact overrides

end Recorder

section Steps

variable {program : Program} {test : String} {pairing : Nat → Nat → Prop} {frame frame' : Frame}
  {callers callers' : List Frame} {memory memory' : Memory} {start start' recorder recorder' : Recorder}

/-- Hook calls keep states beside each other if hooks that are shown the same give the same answers. -/
theorem State.observe_beside_of_hook {σ τ : Type} {hooks : (Nat → Nat → Prop) → σ → τ → Prop} {hook : Hook σ}
    {hook' : Hook τ} {hookState : σ} {hookState' : τ}
    (here : Frame.Matches (.within program) pairing frame frame')
    (waiting : List.Forall₂ (Frame.Matches (.within program) pairing) callers callers')
    (memories : Memory.Paired pairing memory memory') (hooked : hooks pairing hookState hookState')
    (type : ValueType)
    (answers : ∀ {point value value' rest rest'}, frame.popHookCall type = .ok ((point, value), rest) →
      frame'.popHookCall type = .ok ((point, value'), rest') → Value.Alike pairing value value' →
      ∃ answer answer' later later' last last' grown, hook point value hookState memory.heap = (answer, later, last) ∧
        hook' point value' hookState' memory'.heap = (answer', later', last') ∧
        Agree Eq (Value.Alike grown) answer answer' ∧
        hooks grown later later' ∧ Heap.Paired grown last last' ∧
        Heap.Evolves pairing memory.heap memory'.heap grown last last') :
    Step.Beside program Eq hooks pairing memory.heap memory'.heap
      (State.observe hook type frame callers memory hookState)
      (State.observe hook' type frame' callers' memory' hookState') := by
  have popped := here.popHookCall type
  unfold State.observe
  generalize frame.popHookCall type = result at popped answers
  generalize frame'.popHookCall type = result' at popped answers
  cases popped with
  | error failing => exact .halted (.error failing.1.symm) memories hooked .refl
  | @ok seen seen' same =>
    obtain ⟨⟨point, value⟩, rest⟩ := seen
    obtain ⟨⟨point', value'⟩, rest'⟩ := seen'
    obtain ⟨samePoint, alike, resting⟩ := same
    cases samePoint
    obtain ⟨answer, answer', later, later', last, last', grown, shown, shown', answered, kept, heaps, evolves⟩ :=
      answers rfl rfl alike
    have grownMemories : Memory.Paired grown ⟨last, memory.statics⟩ ⟨last', memory'.statics⟩ :=
      ⟨heaps, memories.statics.mono fun _ _ same => same.mono evolves.more⟩
    simp only [shown, shown']
    cases answered with
    | error sameReason => exact .halted (.error (congrArg _ sameReason)) grownMemories kept evolves
    | @ok result result' sameResult =>
      simp only [sameResult.isAssignable_eq]
      split
      · have resumed := (resting.mono evolves.more).push sameResult.box
        exact .running ⟨.cons resumed (waiting.imp fun _ _ h => h.mono evolves.more), grownMemories, kept⟩ evolves
      · refine .halted (.error ?_) grownMemories kept evolves
        rw [sameResult.describe_eq]

/-- Every step keeps states of a program beside each other when recorders receive the values. -/
theorem State.recorder_beside {limits : Limits} {state state' : State Recorder}
    (related : State.Beside program (Recorder.Beside test start start') pairing state state') :
    Step.Beside program Eq (Recorder.Beside test start start') pairing state.memory.heap state'.memory.heap
      (State.step program Recorder.hook limits state) (State.step program Recorder.hook limits state') := by
  obtain ⟨frames, memory, recorder⟩ := state
  obtain ⟨frames', memory', recorder'⟩ := state'
  refine State.step_beside (fun _ _ => rfl) related.hooks.mono related.frames related.memory ?_
  intro frame frame' callers callers' instruction type _ _ _ here waiting
  exact State.observe_beside_of_hook here waiting related.memory related.hooks type fun {point _ _ _ _} _ _ alike =>
    related.hooks.hook related.memory.toPaired alike point

end Steps

end Faultline
