import Faultline.Proofs.Value.Separation
import Mathlib.Data.Set.Function

namespace Faultline

namespace Heap

/-- The value that a path of field names leads to, from one object to the next, whether they are in boxes or not. -/
def follow? (heap : Heap) (value : Value) : List String → Option Value
  | [] => some value
  | name :: path =>
    (value.reference?.bind fun reference => heap.field? reference name).bind fun value => heap.follow? value path

/-- The object that a path leads to. -/
def objectAt? (heap : Heap) (value : Value) (path : List String) : Option Nat :=
  ((heap.follow? value path).bind Value.reference?).map (·.id)

/-- The objects that a value leads to, each beside its partner. -/
def Matched (heap : Heap) (value : Value) (partner : Nat → Nat) (a b : Nat) : Prop :=
  heap.Leads (· = value) a ∧ partner a = b

/-- A later heap in which a value is once more, in new objects: these are the partners of the objects that it
leads to, one for each, and what is in them is the same but for the objects, which are the partners of those
that were there. -/
structure Replicates (heap : Heap) (value : Value) (later : Heap) (copied : Value) (partner : Nat → Nat) : Prop where
  onto : Set.BijOn partner {id | heap.Leads (· = value) id} {id | heap.size ≤ id ∧ id < later.size}
  root : Value.Alike (heap.Matched value partner) value copied
  fields : ∀ id, heap.Leads (· = value) id → Fields.Alike (heap.Matched value partner) (heap.fields id)
    (later.fields (partner id))

section Paths

variable {pairing : Nat → Nat → Prop} {heap heap' : Heap} {value value' : Value}

/-- In heaps that are alike a path leads to alike values, or nowhere in both. -/
theorem Alike.follow? (heaps : Heap.Alike pairing heap heap') (alike : Value.Alike pairing value value')
    (path : List String) :
    Option.Rel (Value.Alike pairing) (heap.follow? value path) (heap'.follow? value' path) := by
  induction path generalizing value value' with
  | nil => exact .some alike
  | cons name path ih =>
    simp only [Heap.follow?]
    rcases alike.reference? with ⟨absent, absent'⟩ | ⟨reference, reference', found, found', paired⟩
    · rw [absent, absent']
      exact .none
    · rw [found, found', Option.bind_some, Option.bind_some, field?, field?]
      rcases (heaps.fields _ _ paired).get? name with ⟨absent, absent'⟩ | ⟨inner, inner', here, here', same⟩
      · rw [absent, absent']
        exact .none
      · rw [here, here']
        exact ih same

/-- One path leads to paired objects in two heaps that are alike. -/
theorem Alike.objectAt? (heaps : Heap.Alike pairing heap heap') (alike : Value.Alike pairing value value')
    (path : List String) :
    Option.Rel pairing (heap.objectAt? value path) (heap'.objectAt? value' path) := by
  have same := heaps.follow? alike path
  unfold Heap.objectAt?
  generalize heap.follow? value path = found at same
  generalize heap'.follow? value' path = found' at same
  cases same with
  | none => exact .none
  | @some value value' same =>
    simp only [Option.bind_some]
    rcases same.reference? with ⟨absent, absent'⟩ | ⟨reference, reference', here, here', paired⟩
    · rw [absent, absent']
      exact .none
    · rw [here, here']
      exact .some paired

/-- Paths meet in one heap where they meet in the other. -/
theorem Alike.objectAt?_eq_iff (heaps : Heap.Alike pairing heap heap') (alike : Value.Alike pairing value value')
    (path path' : List String) :
    heap'.objectAt? value' path = heap'.objectAt? value' path' ↔
    heap.objectAt? value path = heap.objectAt? value path' := by
  have first := heaps.objectAt? alike path
  have second := heaps.objectAt? alike path'
  generalize heap.objectAt? value path = found, heap'.objectAt? value' path = found' at first
  generalize heap.objectAt? value path' = other, heap'.objectAt? value' path' = other' at second
  cases first with
  | none => cases second <;> simp
  | some paired =>
    cases second with
    | none => simp
    | some paired' => rw [Option.some.injEq, Option.some.injEq, heaps.oneToOne paired paired']

end Paths

section Partners

variable {heap : Heap} {value : Value}

theorem Holds.closed (held : heap.Holds value) : heap.Closed (heap.Leads (· = value)) :=
  closed_leads fun _ same => same ▸ held

/-- The copied objects are those that the value leads to. -/
theorem copied_iff_leads (held : heap.Holds value) {id : Nat} :
    (∃ copy, (heap.memo value).get? id = some copy) ↔ heap.Leads (· = value) id := by
  constructor
  · rintro ⟨copy, known⟩
    have within : value.Within (heap.Leads (· = value)) := within_leads rfl
    exact memo_within (fun _ reached _ => .next reached) within known
  · obtain ⟨heaps, alike⟩ := copy_alike (Spares.paired .refl) held.alike
    intro reached
    induction reached with
    | root same found =>
      subst same
      rcases alike.reference? with ⟨absent, _⟩ | ⟨reference, copy, here, _, original, known, same, _⟩
      · rw [absent] at found
        cases found
      · rw [here] at found
        cases found
        exact ⟨copy.id, same ▸ known⟩
    | next before successor ih =>
      obtain ⟨copy, known⟩ := ih
      have paired : copies heap.own heap value _ copy := ⟨_, known, rfl, _, before, held.closed⟩
      obtain ⟨copied, original, knownNext, same, _⟩ := heaps.symm.partner paired successor
      exact ⟨copied, same ▸ knownNext⟩

/-- The new object that an object is copied to. -/
def partner (heap : Heap) (value : Value) (id : Nat) : Nat := ((heap.memo value).get? id).getD 0

theorem partner_eq {id copy : Nat} (known : (heap.memo value).get? id = some copy) :
    heap.partner value id = copy := by
  rw [partner, known, Option.getD_some]

theorem matched_of_copies {a b : Nat} (held : heap.Holds value) (paired : copies heap.own heap value a b) :
    heap.Matched value (heap.partner value) a b := by
  obtain ⟨_, known, rfl, _⟩ := paired
  exact ⟨(copied_iff_leads held).1 ⟨b, known⟩, partner_eq known⟩

theorem copies_partner (held : heap.Holds value) {id : Nat} (reached : heap.Leads (· = value) id) :
    copies heap.own heap value id (heap.partner value id) := by
  obtain ⟨copy, known⟩ := (copied_iff_leads held).2 reached
  exact ⟨id, partner_eq known ▸ known, rfl, _, reached, held.closed⟩

/-- There is one new object for each that the value leads to, and no other. -/
theorem bijOn_partner (held : heap.Holds value) :
    Set.BijOn (heap.partner value) {id | heap.Leads (· = value) id}
      {id | heap.size ≤ id ∧ id < (heap.copy value).2.size} := by
  have sound := (copy_sound heap value).1
  refine ⟨fun id reached => new_of_copies (copies_partner held reached), ?_, ?_⟩
  · intro id reached id' reached' same
    obtain ⟨copy, known⟩ := (copied_iff_leads held).2 reached
    obtain ⟨copy', known'⟩ := (copied_iff_leads held).2 reached'
    rw [partner_eq known, partner_eq known'] at same
    exact sound.distinct id id' copy known (same ▸ known')
  · rintro id ⟨new, inside⟩
    obtain ⟨original, known⟩ := sound.onto id new inside
    exact ⟨original, (copied_iff_leads held).1 ⟨id, known⟩, partner_eq known⟩

theorem copy_replicates (held : heap.Holds value) :
    heap.Replicates value (heap.copy value).2 (heap.copy value).1 (heap.partner value) := by
  obtain ⟨heaps, alike⟩ := copy_alike (Spares.paired .refl) held.alike
  refine ⟨bijOn_partner held, alike.mono fun _ _ => matched_of_copies held, fun id reached => ?_⟩
  exact (heaps.fields _ _ (copies_partner held reached)).mono fun _ _ same => same.mono fun _ _ =>
    matched_of_copies held

end Partners

/-- A copy of a value that leads to no missing object is made of new objects, one for each that the value
leads to, with the same content and in the same places; and no object that was there before is changed. -/
theorem copy_isomorphic {heap : Heap} {value : Value} (held : heap.Holds value) :
    let later := (heap.copy value).2
    let copied := (heap.copy value).1
    (∀ id < heap.size, later.fields id = heap.fields id) ∧ (∃ partner, heap.Replicates value later copied partner) ∧
      ∀ path path', later.objectAt? copied path = later.objectAt? copied path' ↔
        heap.objectAt? value path = heap.objectAt? value path' := by
  obtain ⟨heaps, alike⟩ := copy_alike (Spares.paired .refl) held.alike
  exact ⟨fun _ => fields_copy_of_lt, ⟨heap.partner value, copy_replicates held⟩, heaps.toAlike.objectAt?_eq_iff alike⟩

/-- A pair whose parts are one object, once in a box, that leads back to the pair; and an object that the pair
does not lead to. -/
def pairHeap : Heap :=
  ⟨#[.ofList [("a", .object ⟨1, "Cell"⟩), ("b", .boxed (.object ⟨1, "Cell"⟩)), ("x", .float64 .zero)],
    .ofList [("n", .int32 9), ("pair", .object ⟨0, "Pair"⟩)], .ofList [("pair", .object ⟨0, "Pair"⟩)]]⟩

/-- A boxed pair with one object in both of its fields, which leads back to the pair. -/
theorem copy_isomorphic_pair :
    let value : Value := .boxed (.object ⟨0, "Pair"⟩)
    let later := (pairHeap.copy value).2
    let copied := (pairHeap.copy value).1
    pairHeap.Holds value ∧ (∀ id < 3, later.fields id = pairHeap.fields id) ∧
      (∃ partner, pairHeap.Replicates value later copied partner) ∧
      later.objectAt? copied ["a"] = later.objectAt? copied ["b", "pair", "a"] ∧
      later.objectAt? copied ["a"] ≠ later.objectAt? copied ["b", "pair"] := by
  have closed : pairHeap.Closed (· < 2) := by
    intro id inside
    have onward : ∀ id < 2, id < pairHeap.size ∧ ∀ next ∈ pairHeap.successors id, next < 2 := by decide
    exact onward id inside
  have held : pairHeap.Holds (.boxed (.object ⟨0, "Pair"⟩)) := closed.holds fun reference found => by
    cases found
    exact Nat.zero_lt_two
  obtain ⟨unchanged, copied, paths⟩ := copy_isomorphic held
  exact ⟨held, unchanged, copied, (paths _ _).2 (by decide), fun same => absurd ((paths _ _).1 same) (by decide)⟩

end Heap

end Faultline
