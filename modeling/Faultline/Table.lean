namespace Faultline

/-- A finite map, kept as its entries in strictly ascending order of their keys. Two tables with the
same lookups are therefore the same table. -/
structure Table (κ ν : Type) [Ord κ] where
  entries : List (κ × ν)
  ascending : entries.Pairwise fun a b => compare a.1 b.1 = .lt
deriving DecidableEq

namespace Table

section Entries

variable {κ ν : Type} [Ord κ]

def lookup (key : κ) : List (κ × ν) → Option ν
  | [] => none
  | entry :: rest => if compare key entry.1 = .eq then some entry.2 else lookup key rest

/-- Puts an entry where its key belongs, in place of an entry with that key. -/
def place (key : κ) (value : ν) : List (κ × ν) → List (κ × ν)
  | [] => [(key, value)]
  | entry :: rest =>
    match compare key entry.1 with
    | .lt => (key, value) :: entry :: rest
    | .eq => (key, value) :: rest
    | .gt => entry :: place key value rest

theorem mem_place {key : κ} {value : ν} {entries : List (κ × ν)} {entry : κ × ν}
    (member : entry ∈ place key value entries) : entry = (key, value) ∨ entry ∈ entries := by
  induction entries with
  | nil => simpa [place] using member
  | cons head rest ih =>
    unfold place at member
    split at member <;> grind

/-- Placing an entry keeps the keys ascending. -/
theorem place_ascending [Std.TransOrd κ] {key : κ} {value : ν} {entries : List (κ × ν)}
    (ascending : entries.Pairwise fun a b => compare a.1 b.1 = .lt) :
    (place key value entries).Pairwise fun a b => compare a.1 b.1 = .lt := by
  induction entries with
  | nil => simp [place]
  | cons head rest ih =>
    obtain ⟨above, tail⟩ := List.pairwise_cons.1 ascending
    unfold place
    split
    · rename_i below
      refine List.pairwise_cons.2 ⟨fun entry member => ?_, ascending⟩
      rcases List.mem_cons.1 member with same | later
      · exact same ▸ below
      · exact Std.TransCmp.lt_trans below (above entry later)
    · rename_i same
      exact List.pairwise_cons.2
        ⟨fun entry member => Std.TransCmp.lt_of_eq_of_lt same (above entry member), tail⟩
    · rename_i past
      refine List.pairwise_cons.2 ⟨fun entry member => ?_, ih tail⟩
      rcases mem_place member with same | earlier
      · exact same ▸ Std.OrientedCmp.lt_of_gt past
      · exact above entry earlier

/-- After placing an entry its key is found, and every other as before. -/
theorem lookup_place [DecidableEq κ] [Std.LawfulEqOrd κ] (key key' : κ) (value : ν) (entries : List (κ × ν)) :
    lookup key' (place key value entries) = if key' = key then some value else lookup key' entries := by
  induction entries with
  | nil => simp [place, lookup]
  | cons entry rest ih =>
    unfold place
    cases order : compare key entry.1 with
    | lt => simp [lookup]
    | eq =>
      have same := Std.LawfulEqCmp.compare_eq_iff_eq.1 order
      simp only [lookup, Std.LawfulEqCmp.compare_eq_iff_eq, same]
      split <;> rfl
    | gt =>
      have other : key ≠ entry.1 := by
        rintro rfl
        rw [Std.compare_self] at order
        cases order
      simp only [lookup, Std.LawfulEqCmp.compare_eq_iff_eq, ih]
      by_cases here : key' = entry.1
      · rw [if_pos here, if_pos here, if_neg fun same => other (same.symm.trans here)]
      · rw [if_neg here, if_neg here]

end Entries

variable {κ ν : Type} [Ord κ]

def empty : Table κ ν := ⟨[], .nil⟩

instance : EmptyCollection (Table κ ν) := ⟨empty⟩

instance : Inhabited (Table κ ν) := ⟨empty⟩

def get? (table : Table κ ν) (key : κ) : Option ν := lookup key table.entries

def contains (table : Table κ ν) (key : κ) : Bool := (table.get? key).isSome

def insert [Std.TransOrd κ] (table : Table κ ν) (key : κ) (value : ν) : Table κ ν :=
  ⟨place key value table.entries, place_ascending table.ascending⟩

theorem get?_insert [DecidableEq κ] [Std.TransOrd κ] [Std.LawfulEqOrd κ] (table : Table κ ν) (key key' : κ)
    (value : ν) :
    (table.insert key value).get? key' = if key' = key then some value else table.get? key' :=
  lookup_place key key' value table.entries

def erase (table : Table κ ν) (key : κ) : Table κ ν :=
  ⟨table.entries.filter fun entry => compare key entry.1 != .eq, table.ascending.filter _⟩

/-- Of several entries with one key, the last is kept. -/
def ofList [Std.TransOrd κ] (entries : List (κ × ν)) : Table κ ν :=
  entries.foldl (fun table entry => table.insert entry.1 entry.2) empty

def keys (table : Table κ ν) : List κ := table.entries.map (·.1)

def values (table : Table κ ν) : List ν := table.entries.map (·.2)

def size (table : Table κ ν) : Nat := table.entries.length

def isEmpty (table : Table κ ν) : Bool := table.entries.isEmpty

/-- The table with every value replaced and every key kept. -/
def map {ν' : Type} (f : ν → ν') (table : Table κ ν) : Table κ ν' :=
  ⟨table.entries.map fun entry => (entry.1, f entry.2), table.ascending.map _ fun _ _ below => below⟩

end Table

end Faultline
