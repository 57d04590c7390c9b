import Faultline.Proofs.Value.Alike

namespace Faultline

/-- Whether a value refers to no object but those of a set. -/
def Value.Within (objects : Nat → Prop) (value : Value) : Prop :=
  ∀ reference, value.reference? = some reference → objects reference.id

namespace Heap

section Objects

variable {heap : Heap}

theorem fields_alloc (className : String) (fields : Fields) (id : Nat) :
    (heap.alloc className fields).2.fields id = if id = heap.size then fields else heap.fields id := by
  simp only [alloc, Heap.fields, size, Array.getElem?_push]
  by_cases new : id = heap.objects.size <;> simp [new]

theorem size_alloc (className : String) (fields : Fields) : (heap.alloc className fields).2.size = heap.size + 1 :=
  Array.size_push ..

/-- A field that is set is set in its own object only. -/
theorem fields_setField (reference : Reference) (name : String) (value : Value) (id : Nat) :
    (heap.setField reference name value).fields id =
      if reference.id = id ∧ id < heap.size then (heap.fields id).insert name value else heap.fields id := by
  simp only [setField, Heap.fields, size, Array.getElem?_modify]
  by_cases same : reference.id = id
  · by_cases inside : id < heap.objects.size
    · simp [same, inside]
    · simp [same, inside]
  · simp [same]

theorem size_setField (reference : Reference) (name : String) (value : Value) :
    (heap.setField reference name value).size = heap.size :=
  Array.size_modify ..

theorem fields_setFields (heap : Heap) (reference : Reference) (fields : Fields) (id : Nat) :
    (heap.setFields reference fields).fields id = if reference.id = id ∧ id < heap.size then fields
    else heap.fields id := by
  simp only [setFields, Heap.fields, size, Array.getElem?_setIfInBounds]
  by_cases same : reference.id = id
  · by_cases inside : id < heap.objects.size
    · simp [same, inside]
    · simp [same, inside]
  · simp [same]

theorem size_setFields (heap : Heap) (reference : Reference) (fields : Fields) :
    (heap.setFields reference fields).size = heap.size :=
  Array.size_setIfInBounds

theorem mem_successors {id next : Nat} : next ∈ heap.successors id ↔
    ∃ entry ∈ (heap.fields id).entries, ∃ reference, entry.2.reference? = some reference ∧ reference.id = next := by
  simp only [successors, Table.values, List.filterMap_map, List.mem_filterMap, Function.comp_apply,
    Option.map_eq_some_iff]

end Objects

/-- Alike heaps in which only existing objects are paired. -/
structure Paired (pairing : Nat → Nat → Prop) (heap heap' : Heap) : Prop extends Heap.Alike pairing heap heap' where
  inside : ∀ a b, pairing a b → a < heap.size ∧ b < heap'.size

/-- What an object with a partner refers to has a partner too. -/
theorem Alike.partner {pairing : Nat → Nat → Prop} {heap heap' : Heap} (h : Heap.Alike pairing heap heap')
    {a b next : Nat} (paired : pairing a b) (successor : next ∈ heap'.successors b) :
    ∃ partner, pairing partner next := by
  obtain ⟨entry', listed', reference', found', rfl⟩ := mem_successors.1 successor
  obtain ⟨entry, _, _, same⟩ := forall₂_exists_left (h.fields a b paired) listed'
  rcases same.reference? with ⟨_, absent⟩ | ⟨reference, other, _, found, pairedNext⟩
  · rw [absent] at found'
    cases found'
  · rw [found] at found'
    cases found'
    exact ⟨reference.id, pairedNext⟩

/-- Heaps without any objects paired. -/
theorem paired_none {heap heap' : Heap} : Paired (fun _ _ => False) heap heap' :=
  ⟨⟨fun paired => paired.elim, fun _ _ paired => paired.elim⟩, fun _ _ paired => paired.elim⟩

/-- Whether a value of one heap and one of another have the same content, however the objects are identified. -/
def SameContent (heap : Heap) (value : Value) (heap' : Heap) (value' : Value) : Prop :=
  ∃ pairing, Heap.Paired pairing heap heap' ∧ Value.Alike pairing value value'

end Heap

end Faultline
