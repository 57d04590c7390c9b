import Mathlib.Data.List.Forall2
import Mathlib.Data.List.Nodup

namespace Faultline

/-- Related lists have, at every index, no item in either or a related pair. -/
theorem forall₂_getElem? {α β : Type} {related : α → β → Prop} {items : List α} {items' : List β}
    (h : List.Forall₂ related items items') (index : Nat) :
    (items[index]? = none ∧ items'[index]? = none) ∨
      ∃ a b, items[index]? = some a ∧ items'[index]? = some b ∧ related a b := by
  induction h generalizing index with
  | nil => exact Or.inl ⟨rfl, rfl⟩
  | cons here _ ih =>
    cases index with
    | zero => exact Or.inr ⟨_, _, rfl, rfl, here⟩
    | succ index => simpa only [List.getElem?_cons_succ] using ih index

theorem exists_forall₂ {α β : Type} {related : α → β → Prop} {items : List α} (each : ∀ a ∈ items, ∃ b, related a b) :
    ∃ items', List.Forall₂ related items items' := by
  induction items with
  | nil => exact ⟨[], .nil⟩
  | cons first rest ih =>
    obtain ⟨⟨b, here⟩, later⟩ := List.forall_mem_cons.1 each
    obtain ⟨items', matched⟩ := ih later
    exact ⟨b :: items', .cons here matched⟩

theorem forall₂_map_eq {α β γ : Type} {f : α → γ} {g : β → γ} {items : List α} {items' : List β}
    (h : List.Forall₂ (fun a b => f a = g b) items items') : items.map f = items'.map g := by
  rw [← List.forall₂_eq_eq_eq]
  exact List.forall₂_map_left_iff.2 (List.forall₂_map_right_iff.2 h)

/-- Every item of the second list has a related one in the first. -/
theorem forall₂_exists_left {α β : Type} {related : α → β → Prop} {items : List α} {items' : List β}
    (h : List.Forall₂ related items items') {b : β} (member : b ∈ items') : ∃ a ∈ items, related a b := by
  induction h with
  | nil => cases member
  | cons here _ ih =>
    rcases List.mem_cons.1 member with rfl | member
    · exact ⟨_, List.mem_cons_self .., here⟩
    · obtain ⟨a, listed, same⟩ := ih member
      exact ⟨a, List.mem_cons_of_mem _ listed, same⟩

/-- Replacing the items at one index by related ones keeps two lists related. -/
theorem forall₂_set {α β : Type} {related : α → β → Prop} {items : List α} {items' : List β} {a : α} {b : β}
    (h : List.Forall₂ related items items') (new : related a b) (index : Nat) :
    List.Forall₂ related (items.set index a) (items'.set index b) := by
  induction h generalizing index with
  | nil => exact .nil
  | cons here later ih =>
    cases index with
    | zero => exact .cons new later
    | succ index => exact .cons here (ih index)

/-- Two lists that match a third one match each other. -/
theorem forall₂_join {α β γ : Type} {related : α → β → Prop} {related' : α → γ → Prop} {origin : List α}
    {items : List β} {items' : List γ} (h : List.Forall₂ related origin items)
    (h' : List.Forall₂ related' origin items') :
    List.Forall₂ (fun b c => ∃ a, related a b ∧ related' a c) items items' := by
  induction h generalizing items' with
  | nil =>
    cases h'
    exact .nil
  | cons here _ ih =>
    cases h' with
    | cons here' later' => exact .cons ⟨_, here, here'⟩ (ih later')

theorem idxOf?_eq_some_of_nodup {α : Type} [BEq α] [LawfulBEq α] {items : List α} {item : α} {position : Nat}
    (distinct : items.Nodup) (listed : items[position]? = some item) : items.idxOf? item = some position := by
  obtain ⟨inside, atPosition⟩ := List.getElem?_eq_some_iff.1 listed
  rw [List.idxOf?_eq_some_iff]
  refine ⟨inside, atPosition, ?_⟩
  intro earlier before same
  have := (distinct.getElem_inj_iff).1 (same.trans atPosition.symm)
  omega

theorem idxOf?_append {α : Type} [BEq α] (front back : List α) (item : α) :
    (front ++ back).idxOf? item = (front.idxOf? item).or ((back.idxOf? item).map (· + front.length)) := by
  simp only [List.idxOf?, List.findIdx?_append]

/-- Lists whose items' codes are the same in a row are the same, if no code is empty and none is the beginning
of another one. -/
theorem flatMap_inj {α β : Type} {code : α → List β} {items items' : List α}
    (nonempty : ∀ item, code item ≠ [])
    (parted : ∀ item ∈ items, ∀ item' ∈ items', ∀ rest rest', code item ++ rest = code item' ++ rest' →
      item = item' ∧ rest = rest')
    (same : items.flatMap code = items'.flatMap code) : items = items' := by
  induction items generalizing items' with
  | nil =>
    cases items' with
    | nil => rfl
    | cons item' later' =>
      rw [List.flatMap_nil, List.flatMap_cons] at same
      exact absurd (List.append_eq_nil_iff.1 same.symm).1 (nonempty item')
  | cons item later ih =>
    cases items' with
    | nil =>
      rw [List.flatMap_nil, List.flatMap_cons] at same
      exact absurd (List.append_eq_nil_iff.1 same).1 (nonempty item)
    | cons item' later' =>
      rw [List.flatMap_cons, List.flatMap_cons] at same
      obtain ⟨rfl, onward⟩ := parted item (List.mem_cons_self ..) item' (List.mem_cons_self ..) _ _ same
      have parted' : ∀ first ∈ later, ∀ other ∈ later', ∀ rest rest',
          code first ++ rest = code other ++ rest' → first = other ∧ rest = rest' :=
        fun first listed other listed' => parted first (List.mem_cons_of_mem _ listed) other
          (List.mem_cons_of_mem _ listed')
      rw [ih parted' onward]

end Faultline
