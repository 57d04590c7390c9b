import Faultline.Proofs.Value.Evolution

namespace Faultline

/-- Each object of a set beside itself. -/
def diagonal (objects : Nat → Prop) (a b : Nat) : Prop := a = b ∧ objects a

section Values

variable {objects objects' : Nat → Prop} {value : Value}

theorem Value.Within.mono (h : value.Within objects) (more : ∀ id, objects id → objects' id) :
    value.Within objects' :=
  fun reference found => more _ (h reference found)

theorem Value.Within.alike (within : value.Within objects) : Value.Alike (diagonal objects) value value :=
  Value.Alike.refl fun reference found => ⟨rfl, within reference found⟩

/-- A value beside itself refers to objects that are beside themselves. -/
theorem Value.Alike.within {pairing : Nat → Nat → Prop} (h : Value.Alike pairing value value) :
    value.Within fun id => pairing id id := by
  intro reference found
  rcases h.reference? with ⟨absent, _⟩ | ⟨partner, partner', first, second, paired⟩
  · rw [absent] at found
    cases found
  · rw [found, Option.some.injEq] at first second
    subst first second
    exact paired

end Values

namespace Heap

/-- Objects that exist and refer to no other than each other. -/
def Closed (heap : Heap) (objects : Nat → Prop) : Prop :=
  ∀ id, objects id → id < heap.size ∧ ∀ next ∈ heap.successors id, objects next

/-- The objects that are reached from any of the values. -/
inductive Leads (heap : Heap) (values : Value → Prop) : Nat → Prop
  | root {value : Value} {reference : Reference} (listed : values value) (found : value.reference? = some reference) :
      Leads heap values reference.id
  | next {id next : Nat} (before : Leads heap values id) (successor : next ∈ heap.successors id) :
      Leads heap values next

/-- Two sets of objects of which neither leads to the other: what a program can come by, and what is kept from it. -/
structure Split (heap : Heap) (own kept : Nat → Prop) : Prop where
  ownClosed : heap.Closed own
  keptClosed : heap.Closed kept
  apart : ∀ id, own id → ¬ kept id

/-- What leaves kept objects alone, while there can be more of them and of the others. -/
structure Keeps (heap : Heap) (own kept : Nat → Prop) (later : Heap) (own' kept' : Nat → Prop) : Prop where
  size : heap.size ≤ later.size
  ownGrows : ∀ id, own id → own' id
  keptGrows : ∀ id, kept id → kept' id
  fields : ∀ id, kept id → later.fields id = heap.fields id

variable {heap later last : Heap} {own own' own'' kept kept' kept'' objects objects' : Nat → Prop}
  {values : Value → Prop} {value : Value}

theorem Keeps.refl : Keeps heap own kept heap own kept := ⟨Nat.le_refl _, fun _ => id, fun _ => id, fun _ _ => rfl⟩

theorem Keeps.trans (first : Keeps heap own kept later own' kept')
    (second : Keeps later own' kept' last own'' kept'') :
    Keeps heap own kept last own'' kept'' :=
  ⟨Nat.le_trans first.size second.size, fun id here => second.ownGrows id (first.ownGrows id here),
    fun id here => second.keptGrows id (first.keptGrows id here),
    fun id here => (second.fields id (first.keptGrows id here)).trans (first.fields id here)⟩

theorem Split.symm (h : Split heap own kept) : Split heap kept own :=
  ⟨h.keptClosed, h.ownClosed, fun id there here => h.apart id here there⟩

/-- A closed set has all that is reached from values within it. -/
theorem Leads.within {id : Nat} (reached : heap.Leads values id) (closed : heap.Closed objects)
    (roots : ∀ value, values value → value.Within objects) : objects id := by
  induction reached with
  | root listed found => exact roots _ listed _ found
  | next _ successor ih => exact (closed _ ih).2 _ successor

theorem closed_none : heap.Closed fun _ => False := fun _ => False.elim

/-- What values lead to is closed under the fields. -/
theorem closed_leads (held : ∀ value, values value → heap.Holds value) : heap.Closed (heap.Leads values) := by
  have solid : ∀ id, heap.Leads values id → heap.Solid id := by
    intro id reached
    induction reached with
    | root listed found => exact held _ listed _ found
    | @next _ next _ successor ih =>
      obtain ⟨objects, here, closed⟩ := ih
      exact ⟨objects, (closed _ here).2 next successor, closed⟩
  intro id reached
  obtain ⟨objects, here, closed⟩ := solid id reached
  exact ⟨(closed id here).1, fun next successor => .next reached successor⟩

theorem within_leads (listed : values value) : value.Within (heap.Leads values) := fun _ found => .root listed found

theorem Closed.holds (closed : heap.Closed objects) (within : value.Within objects) : heap.Holds value :=
  fun reference found => ⟨objects, within reference found, closed⟩

/-- What a closed set consists of stays closed while its objects stay as they are. -/
theorem Closed.stays (closed : heap.Closed objects) (size : heap.size ≤ later.size)
    (same : ∀ id, objects id → later.fields id = heap.fields id) : later.Closed objects := by
  intro id here
  obtain ⟨inside, onward⟩ := closed id here
  refine ⟨Nat.lt_of_lt_of_le inside size, ?_⟩
  rw [successors, same id here]
  exact onward

theorem Closed.union (closed : heap.Closed objects) (closed' : heap.Closed objects') :
    heap.Closed fun id => objects id ∨ objects' id := by
  rintro id (here | here)
  · exact ⟨(closed id here).1, fun next successor => Or.inl ((closed id here).2 next successor)⟩
  · exact ⟨(closed' id here).1, fun next successor => Or.inr ((closed' id here).2 next successor)⟩

/-- A closed set is the same in a later heap that has left it alone. -/
theorem Closed.paired (closed : heap.Closed objects) (size : heap.size ≤ later.size)
    (same : ∀ id, objects id → later.fields id = heap.fields id) : Paired (diagonal objects) heap later := by
  refine ⟨⟨?_, ?_⟩, ?_⟩
  · rintro a _ a' _ ⟨rfl, _⟩ ⟨rfl, _⟩
    exact Iff.rfl
  · rintro a _ ⟨rfl, here⟩
    rw [same a here]
    refine List.forall₂_same.2 fun entry listed => ⟨rfl, Value.Within.alike fun reference found => ?_⟩
    exact (closed a here).2 _ (mem_successors.2 ⟨entry, listed, reference, found, rfl⟩)
  · rintro a _ ⟨rfl, here⟩
    have inside := (closed a here).1
    omega

/-- Values within what is kept go on having the same content. -/
theorem Keeps.sameContent (keeps : Keeps heap own kept later own' kept') (split : Split heap own kept)
    (within : value.Within kept) : SameContent heap value later value :=
  ⟨_, split.keptClosed.paired keeps.size keeps.fields, within.alike⟩

theorem SameContent.symm {value' : Value} (h : SameContent heap value later value') :
    SameContent later value' heap value := by
  obtain ⟨pairing, heaps, alike⟩ := h
  exact ⟨_, heaps.symm, alike.symm⟩

theorem SameContent.trans {value' value'' : Value} (first : SameContent heap value later value')
    (second : SameContent later value' last value'') : SameContent heap value last value'' :=
  first.symm.join second

/-- In a heap beside itself, the objects that are beside themselves lead to no others. -/
theorem Paired.closed {pairing : Nat → Nat → Prop} (h : Paired pairing heap heap) :
    heap.Closed fun id => pairing id id := by
  intro id here
  refine ⟨(h.inside id id here).1, fun next successor => ?_⟩
  obtain ⟨entry, listed, reference, found, rfl⟩ := mem_successors.1 successor
  exact (List.forall₂_same.1 (h.fields id id here) entry listed).2.within reference found

/-- What a program's own objects can turn into, where nothing else is changed. -/
theorem Split.evolves (h : Split heap own kept) {grown : Nat → Nat → Prop} (heaps : Paired grown later later)
    (evolves : Evolves (diagonal own) heap heap grown later later) :
    Split later (fun id => grown id id) kept ∧ Keeps heap own kept later (fun id => grown id id) kept := by
  have same : ∀ id, kept id → later.fields id = heap.fields id := fun id there =>
    evolves.left.fields id (h.keptClosed id there).1 fun ⟨_, _, here⟩ => h.apart id here there
  refine ⟨⟨heaps.closed, h.keptClosed.stays evolves.left.size same, fun id here there => ?_⟩, evolves.left.size,
    fun id here => evolves.more id id ⟨rfl, here⟩, fun _ => id, same⟩
  rcases evolves.fresh id id here with old | new
  · exact h.apart id old.2 there
  · exact absurd (h.keptClosed id there).1 (Nat.not_lt.2 new.1)

section Changes

theorem mem_successors_of_fields {fields : Fields} {id next : Nat} (here : heap.fields id = fields)
    (within : ∀ value ∈ fields.values, value.Within objects)
    (successor : next ∈ heap.successors id) : objects next := by
  obtain ⟨entry, listed, reference, found, rfl⟩ := mem_successors.1 successor
  rw [here] at listed
  exact within entry.2 (List.mem_map_of_mem listed) reference found

/-- A new object with fields of a program's own is one more of its own. -/
theorem Split.alloc (h : Split heap own kept) (className : String) {fields : Fields}
    (within : ∀ value ∈ fields.values, value.Within own) :
    Split (heap.alloc className fields).2 (fun id => own id ∨ id = heap.size) kept ∧
      Keeps heap own kept (heap.alloc className fields).2 (fun id => own id ∨ id = heap.size) kept := by
  have size : heap.size ≤ (heap.alloc className fields).2.size := by rw [size_alloc]; omega
  have old : ∀ id < heap.size, (heap.alloc className fields).2.fields id = heap.fields id := fun id inside => by
    rw [fields_alloc, if_neg (Nat.ne_of_lt inside)]
  refine ⟨⟨?_, h.keptClosed.stays size fun id here => old id (h.keptClosed id here).1, ?_⟩, size,
    fun _ => Or.inl, fun _ => id, fun id here => old id (h.keptClosed id here).1⟩
  · rintro id (here | rfl)
    · obtain ⟨inside, onward⟩ := h.ownClosed.stays size (fun id here => old id (h.ownClosed id here).1) id here
      exact ⟨inside, fun next successor => Or.inl (onward next successor)⟩
    · have new : (heap.alloc className fields).2.fields heap.size = fields := by rw [fields_alloc, if_pos rfl]
      exact ⟨by rw [size_alloc]; omega, fun next successor => Or.inl (mem_successors_of_fields new within successor)⟩
  · rintro id (here | rfl) there
    · exact h.apart id here there
    · exact Nat.lt_irrefl _ (h.keptClosed _ there).1

/-- Any of a program's own objects can be given fields of its own. -/
theorem Split.setFields (h : Split heap own kept) {reference : Reference} (owned : own reference.id) {fields : Fields}
    (within : ∀ value ∈ fields.values, value.Within own) :
    Split (heap.setFields reference fields) own kept ∧
    Keeps heap own kept (heap.setFields reference fields) own kept := by
  have size := size_setFields heap reference fields
  have same : ∀ id, kept id → (heap.setFields reference fields).fields id = heap.fields id := by
    intro id there
    rw [fields_setFields, if_neg]
    rintro ⟨rfl, _⟩
    exact h.apart _ owned there
  refine ⟨⟨fun id here => ?_, h.keptClosed.stays (Nat.le_of_eq size.symm) same, h.apart⟩,
    Nat.le_of_eq size.symm, fun _ => id, fun _ => id, same⟩
  obtain ⟨inside, onward⟩ := h.ownClosed id here
  refine ⟨size ▸ inside, fun next successor => ?_⟩
  have changed := fields_setFields heap reference fields id
  split at changed
  · exact mem_successors_of_fields changed within successor
  · rw [successors, changed] at successor
    exact onward next successor

end Changes

section Copies

/-- The objects that a copy of a value is made of. -/
def madeFor (heap : Heap) (value : Value) (id : Nat) : Prop := ∃ original, copies heap.own heap value original id

theorem madeFor_new {id : Nat} (made : heap.madeFor value id) : heap.size ≤ id := by
  obtain ⟨_, paired⟩ := made
  exact (new_of_copies paired).1

/-- A copy leads to nothing but objects that are made for it. -/
theorem copy_within (held : heap.Holds value) :
    (heap.copy value).2.Closed (heap.madeFor value) ∧ (heap.copy value).1.Within (heap.madeFor value) := by
  obtain ⟨heaps, alike⟩ := copy_alike (Spares.paired .refl) held.alike
  constructor
  · rintro id ⟨original, paired⟩
    exact ⟨(heaps.inside original id paired).2, fun next successor => heaps.partner paired successor⟩
  · intro reference found
    rcases alike.reference? with ⟨_, absent⟩ | ⟨original, copy, _, found', paired⟩
    · rw [absent] at found
      cases found
    · rw [found'] at found
      cases found
      exact ⟨_, paired⟩

/-- A copy has the content of what it is made of. -/
theorem Holds.copy (held : heap.Holds value) : SameContent heap value (heap.copy value).2 (heap.copy value).1 :=
  ⟨_, copy_alike (Spares.paired .refl) held.alike⟩

/-- A value has the same content as long as the objects that it leads to are as they were. -/
theorem Holds.stays (held : heap.Holds value) (size : heap.size ≤ later.size)
    (same : ∀ id, heap.Leads (· = value) id → later.fields id = heap.fields id) :
    SameContent heap value later value :=
  have roots : value.Within (heap.Leads (· = value)) := within_leads rfl
  ⟨_, (closed_leads fun _ listed => listed ▸ held).paired size same, roots.alike⟩

/-- A copy can be kept from a program. -/
theorem Split.withhold (h : Split heap own kept) (held : heap.Holds value) :
    Split (heap.copy value).2 own (fun id => kept id ∨ heap.madeFor value id) ∧
      Keeps heap own kept (heap.copy value).2 own (fun id => kept id ∨ heap.madeFor value id) ∧
      (heap.copy value).1.Within (fun id => kept id ∨ heap.madeFor value id) := by
  have size : heap.size ≤ (heap.copy value).2.size := size_copy
  have old : ∀ {objects : Nat → Prop}, heap.Closed objects → ∀ id, objects id →
      (heap.copy value).2.fields id = heap.fields id :=
    fun closed id here => fields_copy_of_lt (closed id here).1
  obtain ⟨made, within⟩ := copy_within held
  refine ⟨⟨h.ownClosed.stays size (old h.ownClosed), (h.keptClosed.stays size (old h.keptClosed)).union made, ?_⟩,
    ⟨size, fun _ => id, fun _ => Or.inl, old h.keptClosed⟩, Value.Within.mono within fun _ => Or.inr⟩
  rintro id here (there | new)
  · exact h.apart id here there
  · exact absurd (h.ownClosed id here).1 (Nat.not_lt.2 (madeFor_new new))

/-- A copy of a value of the program can be kept from it. -/
theorem Split.keep (h : Split heap own kept) (within : value.Within own) :
    Split (heap.copy value).2 own (fun id => kept id ∨ heap.madeFor value id) ∧
      Keeps heap own kept (heap.copy value).2 own (fun id => kept id ∨ heap.madeFor value id) ∧
      (heap.copy value).1.Within (fun id => kept id ∨ heap.madeFor value id) :=
  h.withhold (h.ownClosed.holds within)

/-- The program can be given a copy of a value that is kept from it. -/
theorem Split.give (h : Split heap own kept) (within : value.Within kept) :
    Split (heap.copy value).2 (fun id => own id ∨ heap.madeFor value id) kept ∧
      Keeps heap own kept (heap.copy value).2 (fun id => own id ∨ heap.madeFor value id) kept ∧
      (heap.copy value).1.Within (fun id => own id ∨ heap.madeFor value id) := by
  obtain ⟨split, keeps, inside⟩ := h.symm.keep within
  refine ⟨split.symm, ⟨keeps.size, keeps.keptGrows, keeps.ownGrows, fun id here => ?_⟩, inside⟩
  exact fields_copy_of_lt (h.keptClosed id here).1

end Copies

end Heap

end Faultline
