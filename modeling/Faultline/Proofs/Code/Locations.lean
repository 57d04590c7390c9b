import Faultline.Code.Edit

namespace Faultline

/-- The location that an instruction brings into force. -/
def Instruction.visible? (instruction : Instruction) : Option Location :=
  instruction.location.filter fun location => !location.isHidden

theorem locationAt_eq (code : Array Instruction) (index : Nat) :
    locationAt code index = (code.toList.take (index + 1)).reverse.findSome? Instruction.visible? := rfl

/-- The instruction at a place carries a location that is not hidden. -/
def CarriesAt (code : Array Instruction) (place : Nat) (location : Location) : Prop :=
  ∃ instruction, code[place]? = some instruction ∧ instruction.location = some location ∧ location.isHidden = false

/-- The location that is the nearest to an instruction among those carried at it or before it; none if none is. -/
inductive NearestLocation (code : Array Instruction) (index : Nat) : Option Location → Prop
  | carried {place : Nat} {location : Location} (upTo : place ≤ index) (here : CarriesAt code place location)
      (nearest : ∀ between, place < between → between ≤ index → ∀ other, ¬ CarriesAt code between other) :
      NearestLocation code index (some location)
  | absent (nowhere : ∀ place ≤ index, ∀ location, ¬ CarriesAt code place location) : NearestLocation code index none

variable {code : Array Instruction}

theorem carriesAt_iff {place : Nat} {location : Location} :
    CarriesAt code place location ↔ code[place]?.bind Instruction.visible? = some location := by
  simp only [CarriesAt, Instruction.visible?, Option.bind_eq_some_iff, Option.filter_eq_some_iff, Bool.not_eq_true']

theorem visible?_eq_none {place : Nat} : code[place]?.bind Instruction.visible? = none ↔ ∀ location,
    ¬ CarriesAt code place location := by
  simp only [carriesAt_iff, Option.eq_none_iff_forall_ne_some, ne_eq]

theorem locationAt_zero : locationAt code 0 = code[0]?.bind Instruction.visible? := by
  rw [locationAt_eq, ← Array.getElem?_toList]
  cases code.toList with
  | nil => rfl
  | cons instruction rest =>
    change List.findSome? Instruction.visible? [instruction] = instruction.visible?
    rw [List.findSome?_singleton]

/-- Where an instruction brings no location into force, that from before it stays. -/
theorem locationAt_succ (index : Nat) :
    locationAt code (index + 1) = (code[index + 1]?.bind Instruction.visible?).or (locationAt code index) := by
  rw [locationAt_eq, locationAt_eq, ← Array.getElem?_toList, List.take_add_one, List.reverse_append,
    List.findSome?_append]
  cases code.toList[index + 1]? with
  | none => rfl
  | some instruction =>
    change (List.findSome? Instruction.visible? [instruction]).or _ = instruction.visible?.or _
    rw [List.findSome?_singleton]

/-- The location in force at an instruction is the nearest that is carried at it or before it. -/
theorem nearestLocation_locationAt (code : Array Instruction) (index : Nat) :
    NearestLocation code index (locationAt code index) := by
  induction index with
  | zero =>
    rw [locationAt_zero]
    cases shown : code[0]?.bind Instruction.visible? with
    | none =>
      refine .absent fun place upTo => ?_
      obtain rfl := Nat.le_zero.1 upTo
      exact visible?_eq_none.1 shown
    | some location => exact .carried (Nat.le_refl 0) (carriesAt_iff.2 shown) fun between after upTo => by omega
  | succ index ih =>
    rw [locationAt_succ]
    cases shown : code[index + 1]?.bind Instruction.visible? with
    | some location => exact .carried (Nat.le_refl _) (carriesAt_iff.2 shown) fun between after upTo => by omega
    | none =>
      have bare := visible?_eq_none.1 shown
      rw [Option.none_or]
      generalize locationAt code index = location at ih
      cases ih with
      | carried upTo here nearest =>
        refine .carried (Nat.le_succ_of_le upTo) here fun between after within => ?_
        rcases Nat.le_or_eq_of_le_succ within with earlier | rfl
        · exact nearest between after earlier
        · exact bare
      | absent nowhere =>
        refine .absent fun place within => ?_
        rcases Nat.le_or_eq_of_le_succ within with earlier | rfl
        · exact nowhere place earlier
        · exact bare

end Faultline
