import Mathlib.Data.List.Induction

namespace Faultline

/-- What is picked by a scan that goes for the items of a kind and passes over those that count as one with an
earlier pick. -/
structure Firsts {α : Type} (same : α → α → Bool) (keeps : α → Bool) (items picked : List α) : Prop where
  /-- A pick is an item of the kind. -/
  kept : ∀ item ∈ picked, item ∈ items ∧ keeps item
  /-- No two picks count as one. -/
  distinct : picked.Pairwise fun a b => ¬ same a b
  /-- Every item of the kind counts as one with exactly one pick. -/
  complete : ∀ item ∈ items, keeps item → picked.countP (same item ·) = 1
  /-- A pick is the first of the items that count as one with it. -/
  first : ∀ item ∈ picked, items.find? (same item ·) = some item
  /-- The picks stand in the order of these first items. -/
  ordered : picked.Pairwise fun a b => items.findIdx (same a ·) < items.findIdx (same b ·)

namespace Firsts

variable {α : Type} {same : α → α → Bool} {keeps : α → Bool} {items picked : List α} {item : α}

/-- Where a pick stands among the items does not change with what comes after them. -/
theorem findIdx_append (h : Firsts same keeps items picked) {pick : α} (member : pick ∈ picked) (later : List α) :
    (items ++ later).findIdx (same pick ·) = items.findIdx (same pick ·) := by
  have found : items.findIdx (same pick ·) < items.length :=
    List.findIdx_lt_length.2 ⟨pick, (h.kept pick member).1, List.find?_some (h.first pick member)⟩
  rw [List.findIdx_append, if_pos found]

theorem first_append (h : Firsts same keeps items picked) {pick : α} (member : pick ∈ picked) (later : List α) :
    (items ++ later).find? (same pick ·) = some pick := by
  rw [List.find?_append, h.first pick member, Option.some_or]

/-- An item that is not of the kind, or that counts as one with a pick, changes nothing. -/
theorem passes (equivalence : Equivalence fun a b => same a b = true) (h : Firsts same keeps items picked)
    (known : keeps item → ∃ pick ∈ picked, same pick item) : Firsts same keeps (items ++ [item]) picked where
  kept pick member := ⟨List.mem_append_left _ (h.kept pick member).1, (h.kept pick member).2⟩
  distinct := h.distinct
  complete other listed fits := by
    rcases List.mem_append.1 listed with earlier | last
    · exact h.complete other earlier fits
    · -- The item has the picks that count as one with the earlier one, and of these there is one.
      cases List.mem_singleton.1 last
      obtain ⟨pick, member, alike⟩ := known fits
      rw [← h.complete pick (h.kept pick member).1 (h.kept pick member).2]
      refine List.countP_congr fun other _ => ⟨fun here => equivalence.trans alike here, fun here => ?_⟩
      exact equivalence.trans (equivalence.symm alike) here
  first pick member := h.first_append member _
  ordered := h.ordered.imp_of_mem fun ha hb before => by
    rwa [h.findIdx_append ha, h.findIdx_append hb]

/-- An item of the kind that counts as one with no pick is picked. -/
theorem takes (equivalence : Equivalence fun a b => same a b = true) (respects : ∀ a b, same a b → keeps a → keeps b)
    (h : Firsts same keeps items picked) (fits : keeps item) (new : ∀ pick ∈ picked, ¬ same pick item) :
    Firsts same keeps (items ++ [item]) (picked ++ [item]) := by
  -- No earlier item counts as one with the new one, since it would have brought in a pick that does.
  have unseen : ∀ earlier ∈ items, ¬ same item earlier := by
    intro earlier listed alike
    have one := h.complete earlier listed (respects item earlier alike fits)
    obtain ⟨pick, member, here⟩ := List.countP_pos_iff.1 (one ▸ Nat.one_pos)
    exact new pick member (equivalence.symm (equivalence.trans alike here))
  have absent : items.find? (same item ·) = none := List.find?_eq_none.2 unseen
  have position : (items ++ [item]).findIdx (same item ·) = items.length := by
    rw [List.findIdx_append, if_neg (by simpa using unseen)]
    simp [equivalence.refl item]
  constructor
  case kept =>
    intro pick member
    rcases List.mem_append.1 member with earlier | last
    · exact ⟨List.mem_append_left _ (h.kept pick earlier).1, (h.kept pick earlier).2⟩
    · cases List.mem_singleton.1 last
      exact ⟨List.mem_append_right _ (List.mem_singleton_self _), fits⟩
  case distinct =>
    refine List.pairwise_append.2 ⟨h.distinct, List.pairwise_singleton .., fun pick member other last => ?_⟩
    cases List.mem_singleton.1 last
    exact new pick member
  case complete =>
    intro other listed kept
    rw [List.countP_append, List.countP_singleton]
    rcases List.mem_append.1 listed with earlier | last
    · rw [h.complete other earlier kept, if_neg fun alike => unseen other earlier (equivalence.symm alike)]
    · cases List.mem_singleton.1 last
      have none : picked.countP (same item ·) = 0 :=
        List.countP_eq_zero.2 fun pick member alike => new pick member (equivalence.symm alike)
      rw [none, if_pos (equivalence.refl item)]
  case first =>
    intro pick member
    rcases List.mem_append.1 member with earlier | last
    · exact h.first_append earlier _
    · cases List.mem_singleton.1 last
      rw [List.find?_append, absent, Option.none_or, List.find?_cons_of_pos (equivalence.refl item)]
  case ordered =>
    refine List.pairwise_append.2 ⟨?_, List.pairwise_singleton .., fun pick member other last => ?_⟩
    · exact h.ordered.imp_of_mem fun ha hb before => by rwa [h.findIdx_append ha, h.findIdx_append hb]
    · cases List.mem_singleton.1 last
      rw [position, h.findIdx_append member]
      exact List.findIdx_lt_length.2 ⟨pick, (h.kept pick member).1, equivalence.refl pick⟩

/-- A scan that puts its picks in front of each other, turned round at the end. -/
theorem scan (equivalence : Equivalence fun a b => same a b = true) (respects : ∀ a b, same a b → keeps a → keeps b)
    (items : List α) : Firsts same keeps items (items.foldl
      (fun picked item => if !keeps item || picked.any (same · item) then picked else item :: picked)
      []).reverse := by
  induction items using List.reverseRecOn with
  | nil => exact ⟨by simp, .nil, by simp, by simp, .nil⟩
  | append_singleton items item ih =>
    rw [List.foldl_append, List.foldl_cons, List.foldl_nil]
    split
    case isTrue passed =>
      refine ih.passes equivalence fun fits => ?_
      simpa [fits] using passed
    case isFalse taken =>
      rw [List.reverse_cons]
      rw [Bool.or_eq_true, not_or] at taken
      refine ih.takes equivalence respects (by simpa using taken.1) fun pick member alike => taken.2 ?_
      exact List.any_eq_true.2 ⟨pick, List.mem_reverse.1 member, alike⟩

end Firsts

end Faultline
