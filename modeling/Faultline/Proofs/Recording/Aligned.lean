import Faultline.Proofs.Recording.Ownership

namespace Faultline

/-- What a profile lists up to the first observation at a site, with that one in front. -/
structure Profile.UpTo (site : UInt32) (profile : Profile) (seen : List Observation) : Prop where
  listed : seen <:+ profile.latest
  first : ∃ first earlier, seen = first :: earlier ∧ first.site = site ∧ ∀ observation ∈ earlier,
    observation.site ≠ site

/-- Up to the first observation at a site, two profiles list the same, however the objects are identified. -/
def Profile.AgreeUpTo (site : UInt32) (heap : Heap) (profile : Profile) (heap' : Heap) (profile' : Profile) : Prop :=
  ∃ pairing seen seen', Heap.Paired pairing heap heap' ∧ profile.UpTo site seen ∧ profile'.UpTo site seen' ∧
    List.Forall₂ (Observation.Alike pairing) seen seen'

/-- What one profile lists, another one lists before anything else. -/
def Profile.Begins (heap : Heap) (profile : Profile) (heap' : Heap) (profile' : Profile) : Prop :=
  ∃ pairing begun, Heap.Paired pairing heap heap' ∧ begun <:+ profile'.latest ∧
    List.Forall₂ (Observation.Alike pairing) profile.latest begun

namespace Profile

variable {site : UInt32} {heap heap' later : Heap} {profile profile' profile'' : Profile}
  {seen seen' : List Observation} {pairing : Nat → Nat → Prop}

theorem UpTo.of_alike (h : profile.UpTo site seen) (alike : List.Forall₂ (Observation.Alike pairing) seen seen')
    (listed : seen' <:+ profile'.latest) : profile'.UpTo site seen' := by
  obtain ⟨first, earlier, rfl, here, before⟩ := h.first
  cases alike with
  | cons same others =>
    refine ⟨listed, _, _, rfl, same.site.trans here, fun observation member => ?_⟩
    obtain ⟨original, among, alike⟩ := forall₂_exists_left others member
    exact alike.site ▸ before original among

theorem UpTo.first? (h : profile.UpTo site seen) : profile.first? site = seen.head? := by
  obtain ⟨first, earlier, rfl, here, before⟩ := h.first
  obtain ⟨rest, whole⟩ := h.listed
  have none : earlier.reverse.find? (·.site = site) = none :=
    List.find?_eq_none.2 fun observation member => by simpa using before observation (List.mem_reverse.1 member)
  rw [Profile.first?, observations, ← whole, List.reverse_append, List.reverse_cons, List.append_assoc,
    List.find?_append, none,
    Option.none_or, List.singleton_append, List.find?_cons_of_pos (by simpa using here), List.head?_cons]

theorem Alike.begins (h : Profile.Alike pairing profile profile') (heaps : Heap.Paired pairing heap heap') :
    Begins heap profile heap' profile' :=
  ⟨pairing, _, heaps, List.suffix_rfl, h.latest⟩

namespace AgreeUpTo

theorem symm (h : AgreeUpTo site heap profile heap' profile') : AgreeUpTo site heap' profile' heap profile := by
  obtain ⟨pairing, seen, seen', heaps, upTo, upTo', alike⟩ := h
  exact ⟨_, seen', seen, heaps.symm, upTo', upTo, List.Forall₂.flip (alike.imp fun _ _ same => same.symm)⟩

/-- Whatever comes after the first observation at the site is of no account. -/
theorem onward (h : AgreeUpTo site heap profile heap' profile') (begins : Begins heap' profile' later profile'') :
    AgreeUpTo site heap profile later profile'' := by
  obtain ⟨pairing, seen, seen', heaps, upTo, upTo', alike⟩ := h
  obtain ⟨pairing', begun, heaps', before, same⟩ := begins
  obtain ⟨rest, whole⟩ := upTo'.listed
  have kept := List.forall₂_drop rest.length same
  rw [← whole, List.drop_left] at kept
  have joined := (forall₂_join (List.Forall₂.flip (alike.imp fun _ _ same => same.symm)) kept).imp
    fun _ _ ⟨_, here, here'⟩ => here.join here'
  exact ⟨_, seen, _, heaps.symm.join heaps', upTo, upTo.of_alike joined ((List.drop_suffix ..).trans before), joined⟩

/-- What was first seen at the site has the same content. -/
theorem first? (h : AgreeUpTo site heap profile heap' profile') : ∃ first first', profile.first? site = some first ∧
    profile'.first? site = some first' ∧ Heap.SameContent heap first.value heap' first'.value := by
  obtain ⟨pairing, seen, seen', heaps, upTo, upTo', alike⟩ := h
  rw [upTo.first?, upTo'.first?]
  obtain ⟨first, earlier, rfl, -⟩ := upTo.first
  cases alike with
  | cons same others => exact ⟨_, _, rfl, rfl, pairing, heaps, same.value⟩

end AgreeUpTo

end Profile

namespace Recorder

/-- One recorder in the middle of a run of a test that it records, and another one in the middle of a replay
with overrides at no other site than one that the test has not come to yet. Both have seen the same. -/
structure Aligned (test : String) (site : UInt32) (pairing : Nat → Nat → Prop)
    (recorder recorder' : Recorder) : Prop where
  current : recorder.current = some test
  current' : recorder'.current = some test
  recording : recorder.mode = .recording
  replaying : recorder'.mode = .replay
  sites : recorder'.sites = recorder.sites
  overrides : ∀ other, other ≠ site → recorder'.overrides.get? other = none
  written : Profile.Alike pairing (recorder.written test) (recorder'.written test)
  unseen : ∀ observation ∈ (recorder.written test).latest, observation.site ≠ site

variable {test : String} {site : UInt32} {pairing grown : Nat → Nat → Prop} {recorder recorder' : Recorder}
  {heap heap' : Heap} {value value' : Value}

namespace Aligned

theorem mono (h : Aligned test site pairing recorder recorder') (more : ∀ a b, pairing a b → grown a b) :
    Aligned test site grown recorder recorder' :=
  { h with written := h.written.mono more }

/-- At any other site, both keep what they see and answer with it. -/
theorem keep (h : Aligned test site pairing recorder recorder') (value value' : Value) {point : HookPoint}
    (elsewhere : point.site ≠ site) {observed observed' : Value} (copied : Value.Alike pairing observed observed') :
    (recorder.keep test point value observed).1 = value ∧ (recorder'.keep test point value' observed').1 = value' ∧
      Aligned test site pairing (recorder.keep test point value observed).2
        (recorder'.keep test point value' observed').2 := by
  have written : Profile.Alike pairing ((recorder.keep test point value observed).2.written test)
      ((recorder'.keep test point value' observed').2.written test) := by
    rw [written_keep, written_keep]
    exact h.written.record point.site point.type copied
  have unseen : ∀ observation ∈ ((recorder.keep test point value observed).2.written test).latest,
      observation.site ≠ site := by
    rw [written_keep]
    exact List.forall_mem_cons.2 ⟨elsewhere, h.unseen⟩
  unfold Recorder.keep at written unseen ⊢
  simp only [h.recording, h.replaying, h.overrides point.site elsewhere, Option.getD_none] at written unseen ⊢
  exact ⟨trivial, trivial, h.current, h.current', rfl, rfl, h.sites, h.overrides, written, unseen⟩

/-- At the site itself, both keep what they see, and that is the first thing seen there. -/
theorem keep_agree (h : Aligned test site pairing recorder recorder') {point : HookPoint}
    (here : point.site = site) {observed observed' : Value} (copied : Value.Alike pairing observed observed')
    (heaps : Heap.Paired pairing heap heap') :
    Profile.AgreeUpTo site heap ((recorder.keep test point value observed).2.written test) heap'
      ((recorder'.keep test point value' observed').2.written test) := by
  rw [written_keep, written_keep]
  have alike := (h.written.record point.site point.type copied).latest
  have upTo : ((recorder.written test).record point.site point.type observed).UpTo site _ :=
    ⟨List.suffix_rfl, _, _, rfl, here, h.unseen⟩
  exact ⟨pairing, _, _, heaps, upTo, upTo.of_alike alike List.suffix_rfl, alike⟩

/-- The hook gives both the same answer, unless the site is reached: then both have seen the same up to there. -/
theorem hook (h : Aligned test site pairing recorder recorder') (heaps : Heap.Paired pairing heap heap')
    (alike : Value.Alike pairing value value') (point : HookPoint) :
    (∃ answer answer' later later' last last' grown,
      Recorder.hook point value recorder heap = (answer, later, last) ∧
      Recorder.hook point value' recorder' heap' = (answer', later', last') ∧
      Agree Eq (Value.Alike grown) answer answer' ∧ Aligned test site grown later later' ∧
      Heap.Paired grown last last' ∧ Heap.Evolves pairing heap heap' grown last last') ∨
    Profile.AgreeUpTo site (Recorder.hook point value recorder heap).2.2
      ((Recorder.hook point value recorder heap).2.1.written test) (Recorder.hook point value' recorder' heap').2.2
      ((Recorder.hook point value' recorder' heap').2.1.written test) := by
  have same := accept_alike (h.current'.trans h.current.symm) h.sites point alike
  simp only [Recorder.hook, observe, same]
  cases accepted : recorder.accept point value with
  | error failure => exact Or.inl ⟨_, _, _, _, _, _, pairing, rfl, rfl, .error rfl, h, heaps, .refl⟩
  | ok current =>
    have running := (accept_ok accepted).1
    rw [h.current, Option.some.injEq] at running
    subst running
    obtain ⟨grown, copies, copied, evolves⟩ := heaps.copy alike
    by_cases here : point.site = site
    · exact Or.inr ((h.mono evolves.more).keep_agree here copied copies)
    · obtain ⟨answer, answer', kept⟩ := (h.mono evolves.more).keep value value' here copied
      refine Or.inl ⟨_, _, _, _, _, _, grown, rfl, rfl, .ok ?_, kept, copies, evolves⟩
      rw [answer, answer']
      exact alike.mono evolves.more

end Aligned

end Recorder

/-- Steps after which two recorders have seen the same up to a site. -/
def Step.AgreeUpTo (test : String) (site : UInt32) (step step' : Step Recorder) : Prop :=
  Profile.AgreeUpTo site step.memory.heap (step.hookState.written test) step'.memory.heap
    (step'.hookState.written test)

section Runs

variable {program : Program} {limits : Limits} {test : String} {site : UInt32} {pairing : Nat → Nat → Prop}
  {state state' : State Recorder} {own own' kept kept' : Nat → Prop} {recorder recorder' : Recorder}
  {heap later : Heap}

/-- A run that is recorded and one that is replayed do the same in each step, unless this brings them to the site. -/
theorem State.step_aligned (related : State.Beside program (Recorder.Aligned test site) pairing state state') :
    Step.Beside program Eq (Recorder.Aligned test site) pairing state.memory.heap state'.memory.heap
        (State.step program Recorder.hook limits state) (State.step program Recorder.hook limits state') ∨
      Step.AgreeUpTo test site (State.step program Recorder.hook limits state)
        (State.step program Recorder.hook limits state') := by
  obtain ⟨frames, memory, recorder⟩ := state
  obtain ⟨frames', memory', recorder'⟩ := state'
  refine State.step_cases Or.inl (fun _ _ => rfl) related.hooks.mono related.frames related.memory ?_
  intro frame frame' callers callers' instruction type _ _ _ here waiting
  refine or_iff_not_imp_right.2 fun apart => ?_
  refine State.observe_beside_of_hook here waiting related.memory related.hooks type ?_
  intro point value value' rest rest' popped popped' alike
  refine (related.hooks.hook related.memory.toPaired alike point).resolve_right fun agree => apart ?_
  obtain ⟨after, left⟩ := State.observe_after Recorder.hook callers memory recorder popped
  obtain ⟨after', left'⟩ := State.observe_after Recorder.hook callers' memory' recorder' popped'
  rwa [Step.AgreeUpTo, after, left, after', left']

/-- So they do until they come to the site, if the test that is recorded ever does. -/
theorem State.advance_aligned (count : Nat)
    (related : State.Beside program (Recorder.Aligned test site) pairing state state') :
    (∀ observation ∈
        ((State.advance (State.step program Recorder.hook limits) count state).hookState.written test).latest,
        observation.site ≠ site) ∨
      ∃ first ≤ count, Step.AgreeUpTo test site (State.advance (State.step program Recorder.hook limits) first state)
        (State.advance (State.step program Recorder.hook limits) first state') := by
  induction count generalizing pairing state state' with
  | zero => exact Or.inl related.hooks.unseen
  | succ count ih =>
    rcases State.step_aligned related with beside | agree
    · generalize stepped : State.step program Recorder.hook limits state = step at beside
      generalize stepped' : State.step program Recorder.hook limits state' = step' at beside
      cases beside with
      | halted _ _ hooked _ =>
        refine Or.inl ?_
        rw [State.advance, stepped]
        exact hooked.unseen
      | running onward _ =>
        refine (ih onward).imp (fun unseen => ?_) ?_
        · rw [State.advance, stepped]
          exact unseen
        · rintro ⟨first, within, agree⟩
          refine ⟨first + 1, Nat.succ_le_succ within, ?_⟩
          rw [State.advance, State.advance, stepped, stepped']
          exact agree
    · refine Or.inr ⟨1, Nat.le_add_left .., ?_⟩
      rwa [State.advance_one, State.advance_one]

/-- What a recorder lists goes on being the same, in what it lists later. -/
theorem Recorder.Apart.begins (apart : recorder.Apart own kept) (split : heap.Split own kept)
    (keeps : heap.Keeps own kept later own' kept')
    (more : (recorder.written test).latest <:+ (recorder'.written test).latest) :
    Profile.Begins heap (recorder.written test) later (recorder'.written test) := by
  refine ⟨_, _, split.keptClosed.paired keeps.size keeps.fields, more,
    List.forall₂_same.2 fun observation listed => ?_⟩
  exact ⟨rfl, rfl, rfl, (apart.records _ (records_written listed)).alike⟩

/-- A hook call adds to the running test's observations and takes none away. -/
theorem Recorder.suffix_hook (running : recorder.current = some test) (point : HookPoint) (value : Value) :
    (recorder.written test).latest <:+ ((Recorder.hook point value recorder heap).2.1.written test).latest := by
  simp only [Recorder.hook, observe]
  cases accepted : recorder.accept point value with
  | error failure => exact List.suffix_rfl
  | ok current =>
    have same := (accept_ok accepted).1
    rw [running, Option.some.injEq] at same
    subst same
    dsimp only
    rw [written_keep]
    exact List.suffix_cons ..

/-- As a run goes on, observations are added to those that it has made. -/
theorem State.advance_begins (limits : Limits) {first count : Nat} (within : first ≤ count)
    (owned : state.Owned program own) (split : state.memory.heap.Split own kept)
    (apart : state.hookState.Apart own kept) (running : state.hookState.current = some test) :
    Profile.Begins (State.advance (State.step program Recorder.hook limits) first state).memory.heap
      ((State.advance (State.step program Recorder.hook limits) first state).hookState.written test)
      (State.advance (State.step program Recorder.hook limits) count state).memory.heap
      ((State.advance (State.step program Recorder.hook limits) count state).hookState.written test) := by
  obtain ⟨more, rfl⟩ := Nat.exists_eq_add_of_le within
  obtain ⟨own', kept', split', -, apart', owned'⟩ := State.advance_parts owned split apart first
  have running' :
      (State.advance (State.step program Recorder.hook limits) first state).hookState.current = some test :=
    State.advance_hookState (P := fun (recorder : Recorder) => recorder.current = some test)
      (fun point value recorder heap same =>
        (Recorder.hooked_hook recorder point value heap).current.trans same) running
  rw [State.advance_add]
  generalize State.advance (State.step program Recorder.hook limits) first state = step
    at split' apart' owned' running'
  cases step with
  | halted result last => exact apart'.begins split' .refl List.suffix_rfl
  | running middle =>
    obtain ⟨_, _, -, keeps, -⟩ := State.advance_parts owned' split' apart' more
    refine apart'.begins split' keeps ?_
    refine (State.advance_hookState (P := fun (recorder : Recorder) => recorder.current = some test ∧
      (middle.hookState.written test).latest <:+ (recorder.written test).latest) ?_ ⟨running', List.suffix_rfl⟩).2
    intro point value recorder heap ⟨same, begun⟩
    exact ⟨(Recorder.hooked_hook recorder point value heap).current.trans same,
      begun.trans (Recorder.suffix_hook same point value)⟩

/-- A run that is recorded and one that is replayed see the same up to the site, if the first one comes to it. -/
theorem State.advance_agree (limits : Limits) (count : Nat)
    (related : State.Beside program (Recorder.Aligned test site) pairing state state')
    (owned : state.Owned program own) (split : state.memory.heap.Split own kept)
    (apart : state.hookState.Apart own kept) (owned' : state'.Owned program own')
    (split' : state'.memory.heap.Split own' kept') (apart' : state'.hookState.Apart own' kept') :
    (∀ observation ∈
        ((State.advance (State.step program Recorder.hook limits) count state).hookState.written test).latest,
        observation.site ≠ site) ∨
      Step.AgreeUpTo test site (State.advance (State.step program Recorder.hook limits) count state)
        (State.advance (State.step program Recorder.hook limits) count state') := by
  refine (State.advance_aligned count related).imp id ?_
  rintro ⟨first, within, agree⟩
  have begins := State.advance_begins limits within owned split apart related.hooks.current
  have begins' := State.advance_begins limits within owned' split' apart' related.hooks.current'
  exact ((agree.onward begins').symm.onward begins).symm

end Runs

end Faultline
