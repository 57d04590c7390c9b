import Faultline.Proofs.Value.Copying

namespace Faultline

/-- A heap that only gains objects and, of those that it had, changes none but the exposed ones. -/
structure Heap.Spares (exposed : Nat → Prop) (heap later : Heap) : Prop where
  size : heap.size ≤ later.size
  fields : ∀ id < heap.size, ¬ exposed id → later.fields id = heap.fields id

/-- Two heaps that move on together. Only objects created on the way become pairs, and an object without a partner is
left as it is. -/
structure Heap.Evolves (pairing : Nat → Nat → Prop) (heap heap' : Heap) (grown : Nat → Nat → Prop)
    (later later' : Heap) :
    Prop where
  more : ∀ a b, pairing a b → grown a b
  fresh : ∀ a b, grown a b → pairing a b ∨ heap.size ≤ a ∧ heap'.size ≤ b
  left : Heap.Spares (fun a => ∃ b, pairing a b) heap later
  right : Heap.Spares (fun b => ∃ a, pairing a b) heap' later'

namespace Heap

variable {pairing grown final : Nat → Nat → Prop} {heap heap' later later' last last' : Heap}

theorem Spares.refl {exposed : Nat → Prop} : Spares exposed heap heap := ⟨Nat.le_refl _, fun _ _ _ => rfl⟩

theorem Spares.trans {exposed exposed' : Nat → Prop} (first : Spares exposed heap later)
    (second : Spares exposed' later last) (within : ∀ id < heap.size, exposed' id → exposed id) :
    Spares exposed heap last := by
  refine ⟨Nat.le_trans first.size second.size, ?_⟩
  intro id old hidden
  have stillHidden : ¬ exposed' id := fun shown => hidden (within id old shown)
  rw [second.fields id (by have := first.size; omega) stillHidden, first.fields id old hidden]

theorem Spares.alloc {exposed : Nat → Prop} (className : String) (fields : Fields) :
    Spares exposed heap (heap.alloc className fields).2 := by
  refine ⟨by rw [size_alloc]; omega, ?_⟩
  intro id old _
  rw [fields_alloc, if_neg (Nat.ne_of_lt old)]

theorem Spares.setField {exposed : Nat → Prop} {reference : Reference} (name : String) (value : Value)
    (shown : exposed reference.id) : Spares exposed heap (heap.setField reference name value) := by
  refine ⟨Nat.le_of_eq (size_setField ..).symm, ?_⟩
  intro id _ hidden
  rw [fields_setField, if_neg]
  rintro ⟨rfl, _⟩
  exact hidden shown

theorem Evolves.refl : Evolves pairing heap heap' pairing heap heap' :=
  ⟨fun _ _ => id, fun _ _ => Or.inl, .refl, .refl⟩

/-- Two heaps that evolve together, twice in a row. -/
theorem Evolves.trans (first : Evolves pairing heap heap' grown later later')
    (second : Evolves grown later later' final last last') : Evolves pairing heap heap' final last last' := by
  have size := first.left.size
  have size' := first.right.size
  refine ⟨fun a b paired => second.more a b (first.more a b paired), ?_, ?_, ?_⟩
  · intro a b paired
    rcases second.fresh a b paired with old | ⟨new, new'⟩
    · exact first.fresh a b old
    · exact Or.inr ⟨by omega, by omega⟩
  · refine first.left.trans second.left ?_
    rintro a old ⟨b, paired⟩
    rcases first.fresh a b paired with before | ⟨new, _⟩
    · exact ⟨b, before⟩
    · omega
  · refine first.right.trans second.right ?_
    rintro b old ⟨a, paired⟩
    rcases first.fresh a b paired with before | ⟨_, new⟩
    · exact ⟨a, before⟩
    · omega

theorem Spares.copy {exposed : Nat → Prop} (value : Value) : Spares exposed heap (heap.copy value).2 :=
  ⟨size_copy, fun _ old _ => fields_copy_of_lt old⟩

theorem Paired.copy_right (h : Paired pairing heap heap') (value : Value) :
    Paired pairing heap (heap'.copy value).2 := by
  refine ⟨⟨h.oneToOne, ?_⟩, ?_⟩
  · intro a b paired
    rw [fields_copy_of_lt (h.inside a b paired).2]
    exact h.fields a b paired
  · intro a b paired
    have inside := h.inside a b paired
    exact ⟨inside.1, Nat.lt_of_lt_of_le inside.2 size_copy⟩

/-- Copying on one side only leaves the copy without partners. -/
theorem Evolves.copy_right (value : Value) : Evolves pairing heap heap' pairing heap (heap'.copy value).2 :=
  ⟨fun _ _ => id, fun _ _ => Or.inl, .refl, .copy value⟩

end Heap

section Symmetry

variable {pairing pairing' : Nat → Nat → Prop}

namespace Heap

variable {heap heap' origin : Heap} {value value' : Value}

theorem Paired.symm (h : Paired pairing heap heap') : Paired (fun a b => pairing b a) heap' heap :=
  ⟨⟨fun paired paired' => (h.oneToOne paired paired').symm, fun a b paired => (h.fields b a paired).symm⟩,
    fun a b paired => (h.inside b a paired).symm⟩

/-- Two heaps paired with a third are paired through it. -/
theorem Paired.join (first : Paired pairing origin heap) (second : Paired pairing' origin heap') :
    Paired (fun a b => ∃ z, pairing z a ∧ pairing' z b) heap heap' := by
  refine ⟨⟨?_, ?_⟩, ?_⟩
  · rintro a b a' b' ⟨z, paired, paired'⟩ ⟨y, other, other'⟩
    rw [← first.oneToOne paired other, second.oneToOne paired' other']
  · rintro a b ⟨z, paired, paired'⟩
    exact (first.fields z a paired).join (second.fields z b paired')
  · rintro a b ⟨z, paired, paired'⟩
    exact ⟨(first.inside z a paired).2, (second.inside z b paired').2⟩

theorem SameContent.join {seen : Value} (first : SameContent origin seen heap value)
    (second : SameContent origin seen heap' value') :
    SameContent heap value heap' value' := by
  obtain ⟨pairing, heaps, alike⟩ := first
  obtain ⟨pairing', heaps', alike'⟩ := second
  exact ⟨_, heaps.join heaps', alike.join alike'⟩

/-- Pairs of other objects can be added. -/
theorem Paired.union (h : Paired pairing heap heap') (more : Paired pairing' heap heap')
    (apart : ∀ a b a' b', pairing a b → pairing' a' b' → a ≠ a' ∧ b ≠ b') :
    Paired (fun a b => pairing a b ∨ pairing' a b) heap heap' := by
  refine ⟨⟨?_, ?_⟩, ?_⟩
  · rintro a b a' b' (paired | paired) (paired' | paired')
    · exact h.oneToOne paired paired'
    · have other := apart a b a' b' paired paired'
      exact ⟨fun same => absurd same other.1, fun same => absurd same other.2⟩
    · have other := apart a' b' a b paired' paired
      exact ⟨fun same => absurd same.symm other.1, fun same => absurd same.symm other.2⟩
    · exact more.oneToOne paired paired'
  · rintro a b (paired | paired)
    · exact (h.fields a b paired).mono fun _ _ same => same.mono fun _ _ => Or.inl
    · exact (more.fields a b paired).mono fun _ _ same => same.mono fun _ _ => Or.inr
  · rintro a b (paired | paired)
    · exact h.inside a b paired
    · exact more.inside a b paired

theorem Paired.copy_left (h : Paired pairing heap heap') (value : Value) : Paired pairing (heap.copy value).2 heap' :=
  (h.symm.copy_right value).symm

/-- Copies of values with the same content are alike, in new objects on both sides. -/
theorem SameContent.copy_both (h : SameContent heap value heap' value') :
    ∃ grown, Paired grown (heap.copy value).2 (heap'.copy value').2 ∧
      Value.Alike grown (heap.copy value).1 (heap'.copy value').1 ∧
      Evolves (fun _ _ => False) heap heap' grown (heap.copy value).2 (heap'.copy value').2 := by
  obtain ⟨pairing, paired, alike⟩ := h
  obtain ⟨heaps, same⟩ := copy_alike (paired.symm.join paired.symm) (alike.symm.join alike.symm)
  obtain ⟨heaps', same'⟩ := copy_alike paired alike
  refine ⟨_, heaps.join heaps', same.join same', fun _ _ none => none.elim, ?_, .copy value, .copy value'⟩
  rintro a b ⟨z, made, made'⟩
  exact Or.inr ⟨(new_of_copies made).1, (new_of_copies made').1⟩

/-- Copies of alike values are alike too, and everything else stays in pairs. -/
theorem Paired.copy (h : Paired pairing heap heap') (alike : Value.Alike pairing value value') :
    ∃ grown, Paired grown (heap.copy value).2 (heap'.copy value').2 ∧
      Value.Alike grown (heap.copy value).1 (heap'.copy value').1 ∧
      Evolves pairing heap heap' grown (heap.copy value).2 (heap'.copy value').2 := by
  obtain ⟨added, copies, same, evolves⟩ := SameContent.copy_both ⟨pairing, h, alike⟩
  have isNew : ∀ a b, added a b → heap.size ≤ a ∧ heap'.size ≤ b := fun a b paired =>
    (evolves.fresh a b paired).resolve_left id
  have old := (h.copy_left value).copy_right value'
  refine ⟨_, old.union copies ?_, same.mono fun _ _ => Or.inr, fun _ _ => Or.inl, ?_, .copy value, .copy value'⟩
  · intro a b a' b' paired new
    have inside := h.inside a b paired
    have outside := isNew a' b' new
    omega
  · rintro a b (paired | new)
    · exact Or.inl paired
    · exact Or.inr (isNew a b new)

/-- The object exists, and so does every one that it leads to. -/
def Solid (heap : Heap) (id : Nat) : Prop :=
  ∃ objects : Nat → Prop, objects id ∧ ∀ id, objects id → id < heap.size ∧ ∀ next ∈ heap.successors id, objects next

/-- Every object that the value leads to exists. -/
def Holds (heap : Heap) (value : Value) : Prop :=
  ∀ reference, value.reference? = some reference → heap.Solid reference.id

/-- The heap only gains objects. -/
abbrev Gains (heap later : Heap) : Prop := Spares (fun _ => False) heap later

/-- What began without pairs changed no object on either side. -/
theorem Evolves.gains (h : Evolves (fun _ _ => False) heap heap' grown later later') :
    Gains heap later ∧ Gains heap' later' := by
  refine ⟨⟨h.left.size, fun id old _ => h.left.fields id old ?_⟩,
    ⟨h.right.size, fun id old _ => h.right.fields id old ?_⟩⟩
  · rintro ⟨_, none⟩
    exact none
  · rintro ⟨_, none⟩
    exact none

/-- Pairs stay pairs while a heap only gains objects. -/
theorem Paired.later (h : Paired pairing heap heap') (gains : Gains heap' later') : Paired pairing heap later' := by
  refine ⟨⟨h.oneToOne, ?_⟩, ?_⟩
  · intro a b paired
    rw [gains.fields b (h.inside a b paired).2 not_false]
    exact h.fields a b paired
  · intro a b paired
    obtain ⟨inside, inside'⟩ := h.inside a b paired
    have size := gains.size
    omega

/-- Each object that is solid beside itself. -/
def own (heap : Heap) (a b : Nat) : Prop := a = b ∧ heap.Solid a

theorem Solid.of_paired (h : Paired pairing heap heap') {a b : Nat} (paired : pairing a b) : heap'.Solid b := by
  refine ⟨fun b => ∃ a, pairing a b, ⟨a, paired⟩, ?_⟩
  rintro b ⟨a, paired⟩
  exact ⟨(h.inside a b paired).2, fun next successor => h.partner paired successor⟩

theorem Holds.of_alike (h : Paired pairing heap heap') (alike : Value.Alike pairing value value') :
    heap'.Holds value' := by
  intro reference found
  rcases alike.reference? with ⟨_, absent⟩ | ⟨partner, _, _, found', paired⟩
  · rw [absent] at found
    cases found
  · rw [found'] at found
    cases found
    exact .of_paired h paired

theorem Holds.alike (held : heap.Holds value) : Value.Alike heap.own value value :=
  Value.Alike.refl fun reference found => ⟨rfl, held reference found⟩

/-- What is solid stays as it is while the heap only gains objects. -/
theorem Spares.paired (gains : Gains heap heap') : Paired heap.own heap heap' := by
  refine ⟨⟨?_, ?_⟩, ?_⟩
  · rintro a _ a' _ ⟨rfl, _⟩ ⟨rfl, _⟩
    exact Iff.rfl
  · rintro a _ ⟨rfl, objects, member, closed⟩
    obtain ⟨inside, onward⟩ := closed a member
    rw [gains.fields a inside not_false]
    refine List.forall₂_same.2 fun entry listed => ⟨rfl, Holds.alike fun reference found => ⟨objects, ?_, closed⟩⟩
    exact onward _ (mem_successors.2 ⟨entry, listed, reference, found, rfl⟩)
  · rintro a _ ⟨rfl, objects, member, closed⟩
    have inside := (closed a member).1
    have size := gains.size
    omega

theorem Holds.sameContent (held : heap.Holds value) (gains : Gains heap heap') : SameContent heap value heap' value :=
  ⟨_, gains.paired, held.alike⟩

theorem SameContent.holds (h : SameContent heap value heap' value') : heap'.Holds value' := by
  obtain ⟨pairing, heaps, alike⟩ := h
  exact .of_alike heaps alike

theorem Holds.later (held : heap.Holds value) (gains : Gains heap heap') : heap'.Holds value :=
  (held.sameContent gains).holds

end Heap

end Symmetry

end Faultline
