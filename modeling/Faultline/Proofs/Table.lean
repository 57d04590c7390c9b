import Mathlib.Algebra.GroupWithZero.Nat
import Faultline.Proofs.Lists
import Faultline.Table

namespace Faultline

/-- Tables with the same keys and related values. -/
def Table.Alike {κ ν : Type} [Ord κ] (related : ν → ν → Prop) (table table' : Table κ ν) : Prop :=
  List.Forall₂ (fun entry entry' => entry.1 = entry'.1 ∧ related entry.2 entry'.2) table.entries table'.entries

namespace Table

variable {κ ν : Type} [Ord κ]

theorem get?_insert_self [DecidableEq κ] [Std.TransOrd κ] [Std.LawfulEqOrd κ] (table : Table κ ν) (key : κ)
    (value : ν) :
    (table.insert key value).get? key = some value := by
  rw [get?_insert, if_pos rfl]

/-- What a lookup finds is an entry. -/
theorem mem_of_get? [Std.LawfulEqOrd κ] {table : Table κ ν} {key : κ} {value : ν}
    (found : table.get? key = some value) :
    (key, value) ∈ table.entries := by
  unfold get? at found
  generalize table.entries = entries at found
  induction entries with
  | nil => cases found
  | cons entry rest ih =>
    unfold lookup at found
    split at found
    · rename_i same
      cases found
      rw [Std.LawfulEqCmp.compare_eq_iff_eq.1 same]
      exact List.mem_cons_self
    · exact List.mem_cons_of_mem _ (ih found)

/-- After an erasure the key is gone and every other is found as before. -/
theorem get?_erase [DecidableEq κ] [Std.LawfulEqOrd κ] (table : Table κ ν) (key key' : κ) :
    (table.erase key).get? key' = if key' = key then none else table.get? key' := by
  simp only [get?, erase]
  induction table.entries with
  | nil => simp [lookup]
  | cons entry rest ih =>
    rw [List.filter_cons]
    by_cases removed : key = entry.1
    · simp only [removed, Std.compare_self, bne_self_eq_false, Bool.false_eq_true, if_false]
      rw [← removed, ih]
      simp only [lookup, Std.LawfulEqCmp.compare_eq_iff_eq, ← removed]
      split <;> rfl
    · have kept : (compare key entry.1 != .eq) = true := by simpa [Std.LawfulEqCmp.compare_eq_iff_eq] using removed
      simp only [kept, if_true, lookup, ih, Std.LawfulEqCmp.compare_eq_iff_eq]
      by_cases here : key' = entry.1
      · rw [if_pos here, if_pos here, if_neg fun same => removed (same.symm.trans here)]
      · rw [if_neg here, if_neg here]

theorem mem_insert [Std.TransOrd κ] {table : Table κ ν} {key : κ} {value : ν} {entry : κ × ν}
    (member : entry ∈ (table.insert key value).entries) : entry = (key, value) ∨ entry ∈ table.entries :=
  mem_place member

/-- An entry of a filled table was inserted or there before. -/
theorem mem_foldl_insert [Std.TransOrd κ] {entries : List (κ × ν)} {start : Table κ ν} {entry : κ × ν}
    (member : entry ∈ (entries.foldl (fun table entry => table.insert entry.1 entry.2) start).entries) :
    entry ∈ entries ∨ entry ∈ start.entries := by
  induction entries generalizing start with
  | nil => exact Or.inr member
  | cons first rest ih =>
    rcases ih member with later | earlier
    · exact Or.inl (List.mem_cons_of_mem _ later)
    · rcases mem_insert earlier with rfl | earlier
      · exact Or.inl (List.mem_cons_self ..)
      · exact Or.inr earlier

theorem mem_ofList [Std.TransOrd κ] {entries : List (κ × ν)} {entry : κ × ν}
    (member : entry ∈ (ofList entries).entries) : entry ∈ entries := by
  rcases mem_foldl_insert member with listed | listed
  · exact listed
  · cases listed

/-- A key that is inserted with one value only is found with it. -/
theorem get?_foldl_insert [DecidableEq κ] [Std.TransOrd κ] [Std.LawfulEqOrd κ] {entries : List (κ × ν)}
    {start : Table κ ν} {key : κ} {value : ν} (only : ∀ other, (key, other) ∈ entries → other = value)
    (found : (key, value) ∈ entries ∨ start.get? key = some value) :
    (entries.foldl (fun table entry => table.insert entry.1 entry.2) start).get? key = some value := by
  induction entries generalizing start with
  | nil => exact found.resolve_left List.not_mem_nil
  | cons first rest ih =>
    refine ih (fun other member => only other (List.mem_cons_of_mem _ member)) ?_
    rw [get?_insert]
    by_cases here : key = first.1
    · have same := only first.2 (here ▸ List.mem_cons_self ..)
      rw [if_pos here, same]
      exact Or.inr rfl
    · rw [if_neg here]
      rcases found with member | earlier
      · rcases List.mem_cons.1 member with rfl | member
        · exact absurd rfl here
        · exact Or.inl member
      · exact Or.inr earlier

/-- Where all entries with a key agree, the table has their value. -/
theorem get?_ofList [DecidableEq κ] [Std.TransOrd κ] [Std.LawfulEqOrd κ] {entries : List (κ × ν)} {key : κ}
    {value : ν} (member : (key, value) ∈ entries) (only : ∀ other, (key, other) ∈ entries → other = value) :
    (ofList entries).get? key = some value :=
  get?_foldl_insert only (Or.inl member)

theorem get?_ofList_of_nodup [DecidableEq κ] [Std.TransOrd κ] [Std.LawfulEqOrd κ] {entries : List (κ × ν)}
    {key : κ} {value : ν} (member : (key, value) ∈ entries) (distinct : (entries.map Prod.fst).Nodup) :
    (ofList entries).get? key = some value :=
  get?_ofList member fun _ listed => (Prod.mk.inj (List.inj_on_of_nodup_map distinct listed member rfl)).2

/-- Every key of a list of entries has one of its values in the table. -/
theorem exists_get?_foldl_insert [DecidableEq κ] [Std.TransOrd κ] [Std.LawfulEqOrd κ] {entries : List (κ × ν)}
    {start : Table κ ν} {key : κ} {value : ν} (found : (key, value) ∈ entries ∨ start.get? key = some value) :
    ∃ other, (entries.foldl (fun table entry => table.insert entry.1 entry.2) start).get? key = some other ∧
      ((key, other) ∈ entries ∨ start.get? key = some other) := by
  induction entries generalizing start value with
  | nil => exact ⟨value, found.resolve_left List.not_mem_nil, found⟩
  | cons first rest ih =>
    rw [List.foldl_cons]
    by_cases here : key = first.1
    · subst here
      obtain ⟨other, kept, origin⟩ := ih (Or.inr (get?_insert_self start first.1 first.2))
      refine ⟨other, kept, Or.inl ?_⟩
      rcases origin with member | new
      · exact List.mem_cons_of_mem _ member
      · rw [get?_insert_self, Option.some.injEq] at new
        rw [← new]
        exact List.mem_cons_self ..
    · have later : (key, value) ∈ rest ∨ (start.insert first.1 first.2).get? key = some value := by
        rw [get?_insert, if_neg here]
        refine found.imp (fun member => ?_) id
        rcases List.mem_cons.1 member with rfl | member
        · exact absurd rfl here
        · exact member
      obtain ⟨other, kept, origin⟩ := ih later
      rw [get?_insert, if_neg here] at origin
      exact ⟨other, kept, origin.imp (List.mem_cons_of_mem _) id⟩

theorem exists_get?_ofList [DecidableEq κ] [Std.TransOrd κ] [Std.LawfulEqOrd κ] {entries : List (κ × ν)}
    {key : κ} {value : ν} (member : (key, value) ∈ entries) :
    ∃ other, (ofList entries).get? key = some other ∧ (key, other) ∈ entries := by
  have found : (key, value) ∈ entries ∨ (empty : Table κ ν).get? key = some value := Or.inl member
  obtain ⟨other, kept, origin⟩ := exists_get?_foldl_insert found
  exact ⟨other, kept, origin.resolve_right fun absent => by cases absent⟩

theorem place_of_above [Std.TransOrd κ] {key : κ} {value : ν} {entries : List (κ × ν)}
    (above : ∀ entry ∈ entries, compare entry.1 key = .lt) : place key value entries = entries ++ [(key, value)] := by
  induction entries with
  | nil => rfl
  | cons first rest ih =>
    have past : compare key first.1 = .gt := Std.OrientedCmp.gt_of_lt (above first (List.mem_cons_self ..))
    rw [place, past, List.cons_append, ih fun entry member => above entry (List.mem_cons_of_mem _ member)]

/-- Entries inserted in ascending order are appended. -/
theorem entries_foldl_insert [Std.TransOrd κ] {entries : List (κ × ν)} {start : Table κ ν}
    (ascending : (start.entries ++ entries).Pairwise fun a b => compare a.1 b.1 = .lt) :
    (entries.foldl (fun table entry => table.insert entry.1 entry.2) start).entries = start.entries ++ entries := by
  induction entries generalizing start with
  | nil => exact (List.append_nil _).symm
  | cons first rest ih =>
    have above : ∀ entry ∈ start.entries, compare entry.1 first.1 = .lt := fun entry member =>
      (List.pairwise_append.1 ascending).2.2 entry member first (List.mem_cons_self ..)
    have placed : (start.insert first.1 first.2).entries = start.entries ++ [first] := place_of_above above
    rw [List.foldl_cons, ih (by rwa [placed, List.append_assoc]), placed, List.append_assoc]
    rfl

/-- A table made of entries has just those where they ascend. -/
theorem entries_ofList [Std.TransOrd κ] {entries : List (κ × ν)} :
    (ofList entries).entries = entries ↔ entries.Pairwise fun a b => compare a.1 b.1 = .lt :=
  ⟨fun same => same ▸ (ofList entries).ascending, fun ascending => entries_foldl_insert ascending⟩

theorem eq_of_entries {table table' : Table κ ν} (same : table.entries = table'.entries) : table = table' := by
  cases table
  cases table'
  cases same
  rfl

theorem ofList_entries [Std.TransOrd κ] (table : Table κ ν) : ofList table.entries = table :=
  eq_of_entries (entries_ofList.2 table.ascending)

theorem sum_place (weight : κ × ν → Nat) (entry : κ × ν) (entries : List (κ × ν)) :
    ((place entry.1 entry.2 entries).map weight).sum ≤ (entries.map weight).sum + weight entry := by
  induction entries with
  | nil => exact Nat.le_of_eq (Nat.add_comm ..)
  | cons first rest ih =>
    have whole : weight (entry.1, entry.2) = weight entry := rfl
    unfold place
    split <;> simp only [List.map_cons, List.sum_cons] <;> omega

/-- Inserting over earlier entries never makes a table heavier than the two together. -/
theorem sum_foldl_insert [Std.TransOrd κ] (weight : κ × ν → Nat) (entries : List (κ × ν)) (start : Table κ ν) :
    ((entries.foldl (fun table entry => table.insert entry.1 entry.2) start).entries.map weight).sum ≤
      (start.entries.map weight).sum + (entries.map weight).sum := by
  induction entries generalizing start with
  | nil => exact Nat.le_refl _
  | cons first rest ih =>
    have placed : ((start.insert first.1 first.2).entries.map weight).sum ≤ _ := sum_place weight first start.entries
    have later := ih (start.insert first.1 first.2)
    rw [List.foldl_cons, List.map_cons, List.sum_cons]
    omega

/-- What is kept of the entries that a table is made of weighs no more than all of them. -/
theorem sum_ofList [Std.TransOrd κ] (weight : κ × ν → Nat) (entries : List (κ × ν)) :
    ((ofList entries).entries.map weight).sum ≤ (entries.map weight).sum := by
  have grown := sum_foldl_insert weight entries (empty : Table κ ν)
  rwa [show (empty : Table κ ν).entries = [] from rfl, List.map_nil, List.sum_nil, Nat.zero_add] at grown

namespace Alike

variable {related : ν → ν → Prop} {table table' : Table κ ν}

/-- Alike tables have a key both or neither, with related values. -/
theorem get? (h : Table.Alike related table table') (key : κ) :
    (table.get? key = none ∧ table'.get? key = none) ∨
      ∃ value value', table.get? key = some value ∧ table'.get? key = some value' ∧ related value value' := by
  unfold Table.get?
  have entries : List.Forall₂ _ table.entries table'.entries := h
  generalize table.entries = listed at entries
  generalize table'.entries = listed' at entries
  induction entries with
  | nil => exact Or.inl ⟨rfl, rfl⟩
  | cons here _ ih =>
    simp only [lookup, ← here.1]
    split
    · exact Or.inr ⟨_, _, rfl, rfl, here.2⟩
    · exact ih

theorem mono {related' : ν → ν → Prop} (h : Table.Alike related table table')
    (more : ∀ value value', related value value' → related' value value') : Table.Alike related' table table' :=
  h.imp fun _ _ same => ⟨same.1, more _ _ same.2⟩

/-- Related values under one key keep two tables alike. -/
theorem insert [Std.TransOrd κ] (h : Table.Alike related table table') (key : κ) {value value' : ν}
    (new : related value value') : Table.Alike related (table.insert key value) (table'.insert key value') := by
  have entries : List.Forall₂ _ table.entries table'.entries := h
  simp only [Table.Alike, Table.insert]
  generalize table.entries = listed at entries
  generalize table'.entries = listed' at entries
  induction entries with
  | nil => exact .cons ⟨rfl, new⟩ .nil
  | cons here later ih =>
    simp only [place, ← here.1]
    split
    · exact .cons ⟨rfl, new⟩ (.cons here later)
    · exact .cons ⟨rfl, new⟩ later
    · exact .cons here ih

/-- Erasing one key keeps two tables alike. -/
theorem erase (h : Table.Alike related table table') (key : κ) :
    Table.Alike related (table.erase key) (table'.erase key) := by
  have entries : List.Forall₂ _ table.entries table'.entries := h
  simp only [Table.Alike, Table.erase]
  generalize table.entries = listed at entries
  generalize table'.entries = listed' at entries
  induction entries with
  | nil => exact .nil
  | cons here later ih =>
    simp only [List.filter_cons, ← here.1]
    split
    · exact .cons here ih
    · exact ih

theorem empty : Table.Alike related (.empty : Table κ ν) .empty := .nil

end Alike

end Table

end Faultline
