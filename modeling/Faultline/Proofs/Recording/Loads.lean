import Faultline.Proofs.Machine.Renaming
import Faultline.Proofs.Site.Observation
import Faultline.Recording.Recorder

namespace Faultline

/-- An observed load that a run completed: the instruction, what it is observed as, and the value that it pushed with
the objects as they were at that moment. -/
structure Load where
  method : Method
  index : Nat
  site : Site
  value : Value
  heap : Heap

/-- Whether two loads were executions of one instruction. -/
def Load.isRepeat (load earlier : Load) : Bool := earlier.method = load.method && earlier.index = load.index

namespace State

variable {σ : Type}

/-- The load that a step from one state to the next completed, if it was one that is observed. -/
def load? (sites : Sites) (state later : State σ) : Option Load :=
  match state.frames, later.frames with
  | frame :: _, next :: _ =>
    match sites frame.method frame.pointer, next.stack with
    | some site, value :: _ => some ⟨frame.method, frame.pointer, site, value, later.memory.heap⟩
    | _, _ => none
  | _, _ => none

/-- The observed loads that the first steps of a run complete, in order. -/
def loads (next : State σ → Step σ) (sites : Sites) : Nat → State σ → List Load
  | 0, _ => []
  | count + 1, state =>
    match next state with
    | .halted .. => []
    | .running later => (state.load? sites later).toList ++ loads next sites count later

/-- More steps show the same loads and perhaps further ones. -/
theorem loads_subset (next : State σ → Step σ) (sites : Sites) (count more : Nat) (state : State σ) :
    loads next sites count state ⊆ loads next sites (count + more) state := by
  induction count generalizing state with
  | zero => exact List.nil_subset _
  | succ count ih =>
    rw [Nat.succ_add]
    simp only [loads]
    cases next state with
    | halted => exact List.Subset.refl _
    | running later =>
      exact List.append_subset.2 ⟨List.subset_append_left .., List.subset_append_of_subset_right _ (ih later)⟩

end State

/-- A profile that lists loads in order, each as its own site with the number of earlier executions of the
instruction, and a value that is related to it. -/
structure Profile.Lists (related : Load → Value → Prop) (profile : Profile) (loads : List Load) : Prop where
  size : profile.size = loads.length
  each : ∀ (position : Nat) (load : Load), loads[position]? = some load → ∃ observation,
    profile.observations[position]? = some observation ∧ observation.site = load.site.id ∧
      observation.type = load.site.type ∧
      observation.ordinal = .ofNat ((loads.take position).countP load.isRepeat) ∧ related load observation.value

/-- A profile whose counters agree with the loads that it lists. -/
structure Profile.Counts (profile : Profile) (loads : List Load) : Prop where
  each : ∀ id, profile.occurrences id = .ofNat (loads.countP (·.site.id = id))

namespace Profile

variable {related : Load → Value → Prop} {profile : Profile} {loads : List Load}

theorem Lists.mono {related' : Load → Value → Prop} (h : profile.Lists related loads)
    (more : ∀ load value, related load value → related' load value) : profile.Lists related' loads := by
  refine ⟨h.size, fun position load listed => ?_⟩
  obtain ⟨observation, found, site, type, ordinal, same⟩ := h.each position load listed
  exact ⟨observation, found, site, type, ordinal, more _ _ same⟩

theorem lists_empty (test : String) : (empty test).Lists related [] :=
  ⟨rfl, fun position load listed => by simp at listed⟩

theorem counts_empty (test : String) : (empty test).Counts [] := ⟨fun _ => rfl⟩

theorem observations_record (profile : Profile) (site : UInt32) (type : ValueType) (value : Value) :
    (profile.record site type value).observations = profile.observations ++
      [⟨site, profile.occurrences site, type, value⟩] := by
  simp only [observations, record, List.reverse_cons]

theorem occurrences_record (site other : UInt32) (type : ValueType) (value : Value) :
    (profile.record site type value).occurrences other =
      if other = site then profile.occurrences site + 1 else profile.occurrences other := by
  simp only [record, occurrences, Table.get?_insert]
  split <;> rfl

/-- A profile that records one more load counts it. -/
theorem Counts.record (h : profile.Counts loads) (load : Load) (value : Value) :
    (profile.record load.site.id load.site.type value).Counts (loads ++ [load]) := by
  refine ⟨fun id => ?_⟩
  rw [occurrences_record, List.countP_append, List.countP_singleton]
  by_cases here : id = load.site.id
  · rw [if_pos here, h.each load.site.id, here]
    simp [UInt32.ofNat_add]
  · rw [if_neg here, h.each id]
    simp [Ne.symm here]

/-- Where one number stands for one instruction, recording a load continues the list. -/
theorem Lists.record (h : profile.Lists related loads) (counts : profile.Counts loads) {load : Load} {value : Value}
    (new : related load value) (own : ∀ earlier ∈ loads, earlier.site.id = load.site.id ↔ load.isRepeat earlier) :
    (profile.record load.site.id load.site.type value).Lists related (loads ++ [load]) := by
  have length : profile.observations.length = loads.length := by
    rw [observations, List.length_reverse]
    exact h.size
  refine ⟨?_, ?_⟩
  · have recorded := congrArg List.length (observations_record profile load.site.id load.site.type value)
    rw [List.length_append, length, observations, List.length_reverse] at recorded
    rw [List.length_append]
    exact recorded
  · intro position listedLoad listed
    rw [observations_record]
    by_cases before : position < loads.length
    · rw [List.getElem?_append_left before] at listed
      obtain ⟨observation, found, site, type, ordinal, same⟩ := h.each position listedLoad listed
      refine ⟨observation, ?_, site, type, ?_, same⟩
      · rw [List.getElem?_append_left (length ▸ before), found]
      · rw [ordinal, List.take_append_of_le_length (Nat.le_of_lt before)]
    · have last : position = loads.length := by
        have inside := (List.getElem?_eq_some_iff.1 listed).1
        rw [List.length_append, List.length_singleton] at inside
        omega
      subst last
      rw [List.getElem?_append_right (Nat.le_refl _), Nat.sub_self] at listed
      cases listed
      refine ⟨⟨load.site.id, profile.occurrences load.site.id, load.site.type, value⟩, ?_, rfl, rfl, ?_, new⟩
      · rw [← length, List.getElem?_append_right (Nat.le_refl _), Nat.sub_self]
        rfl
      · rw [List.take_left, counts.each]
        refine congrArg UInt32.ofNat (List.countP_congr fun earlier member => ?_)
        rw [decide_eq_true_iff]
        exact own earlier member

end Profile

end Faultline
