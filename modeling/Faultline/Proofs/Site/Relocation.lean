import Faultline.Proofs.Code.Locations
import Faultline.Proofs.Code.Opcode
import Faultline.Site.Instrument

namespace Faultline

namespace Instruction

/-- A hidden instruction shows no location. -/
theorem visible?_of_hidden {instruction : Instruction} (hidden : instruction.isHidden) :
    instruction.visible? = none := by
  unfold isHidden at hidden
  unfold visible?
  cases carried : instruction.location with
  | none => rfl
  | some location =>
    rw [carried] at hidden
    simpa [Option.filter] using hidden

theorem findSome?_visible_map (f : Nat → Nat) (code : List Instruction) :
    (code.map (·.mapTarget f)).findSome? visible? = code.findSome? visible? := by
  rw [List.findSome?_map]
  rfl

end Instruction

section Insertion

variable {code inserted : Array Instruction} {index : Nat}

theorem toList_insertAfter : (insertAfter code index inserted).toList =
    (code.toList.map (·.mapTarget (shiftTarget index inserted.size))).take (index + 1) ++ inserted.toList ++
      (code.toList.map (·.mapTarget (shiftTarget index inserted.size))).drop (index + 1) := by
  simp [insertAfter, List.take_of_length_le]

theorem size_insertAfter : (insertAfter code index inserted).size = code.size + inserted.size := by
  rw [← Array.length_toList, toList_insertAfter]
  simp only [List.length_append, List.length_take, List.length_drop, List.length_map, Array.length_toList]
  omega

/-- What stood at a place stands, with its own target shifted, where the place was shifted to. -/
theorem getElem?_insertAfter_shifted (inside : index < code.size) (place : Nat) :
    (insertAfter code index inserted)[shiftTarget index inserted.size place]? =
      code[place]?.map (·.mapTarget (shiftTarget index inserted.size)) := by
  rw [← Array.getElem?_toList, toList_insertAfter, ← Array.getElem?_toList]
  by_cases behind : index < place
  · simp only [shiftTarget, behind, if_true]
    rw [List.getElem?_append_right (by simp; omega), List.getElem?_drop, List.getElem?_map]
    congr 2
    simp
    omega
  · simp only [shiftTarget, behind, if_false]
    rw [List.append_assoc, List.getElem?_append_left (by simp; omega), List.getElem?_take_of_lt (by omega),
      List.getElem?_map]

/-- Behind the instruction stands what was inserted there. -/
theorem getElem?_insertAfter_inserted (inside : index < code.size) {offset : Nat}
    (within : offset < inserted.size) :
    (insertAfter code index inserted)[index + 1 + offset]? = inserted[offset]? := by
  rw [← Array.getElem?_toList, toList_insertAfter, ← Array.getElem?_toList,
    List.getElem?_append_left (by simp; omega),
    List.getElem?_append_right (by simp only [List.length_map, List.length_take]; omega)]
  congr 1
  simp
  omega

/-- Hidden code in between changes no location in force. -/
theorem locationAt_insertAfter (inside : index < code.size)
    (hidden : ∀ instruction ∈ inserted, instruction.isHidden) (place : Nat) :
    locationAt (insertAfter code index inserted) (shiftTarget index inserted.size place) = locationAt code place := by
  rw [locationAt_eq, locationAt_eq, toList_insertAfter]
  by_cases behind : index < place
  · have unseen : inserted.toList.reverse.findSome? Instruction.visible? = none := by
      rw [List.findSome?_eq_none_iff]
      intro instruction member
      exact Instruction.visible?_of_hidden (hidden instruction (by simpa using member))
    have moved : shiftTarget index inserted.size place + 1 = index + 1 + inserted.size + (place - index) := by
      simp only [shiftTarget, behind, if_true]
      omega
    have whole : code.toList.take (place + 1) =
        code.toList.take (index + 1) ++ (code.toList.drop (index + 1)).take (place - index) := by
      rw [← List.take_add]
      congr 1
      omega
    rw [whole, moved, List.take_append, List.take_of_length_le (by simp; omega)]
    simp only [List.reverse_append, List.findSome?_append, unseen, Option.none_or]
    rw [← List.map_take, ← List.map_drop, ← List.map_take, ← List.map_reverse, ← List.map_reverse,
      Instruction.findSome?_visible_map, Instruction.findSome?_visible_map]
    congr 4
    simp
    omega
  · have still : shiftTarget index inserted.size place = place := by simp [shiftTarget, behind]
    rw [still, List.append_assoc, List.take_append_of_le_length (by simp; omega), List.take_take,
      Nat.min_eq_left (by omega), ← List.map_take, ← List.map_reverse, Instruction.findSome?_visible_map]

end Insertion

/-- Where an index moves to when behind each instruction there come as many new ones as `length` says. -/
def relocate (length : Nat → Nat) : Nat → Nat
  | 0 => 0
  | index + 1 => relocate length index + 1 + length index

section Relocate

variable {length : Nat → Nat}

theorem relocate_zero : relocate length 0 = 0 := rfl

theorem relocate_succ (index : Nat) : relocate length (index + 1) = relocate length index + 1 + length index := rfl

theorem le_relocate (index : Nat) : index ≤ relocate length index := by
  induction index with
  | zero => exact Nat.zero_le _
  | succ index ih =>
    rw [relocate_succ]
    omega

/-- An instruction and what comes behind it end before a later one. -/
theorem relocate_lt {index later : Nat} (before : index < later) :
    relocate length index + length index < relocate length later := by
  induction later with
  | zero => omega
  | succ later ih =>
    rw [relocate_succ]
    rcases Nat.lt_succ_iff_lt_or_eq.1 before with earlier | rfl
    · have := ih earlier
      omega
    · omega

theorem relocate_eq_self {index : Nat} (none : ∀ i < index, length i = 0) : relocate length index = index := by
  induction index with
  | zero => rfl
  | succ index ih => rw [relocate_succ, ih fun i before => none i (by omega), none index (by omega)]

end Relocate

/-- The length of the sequence planned behind each instruction. -/
def plannedLength (planned : List PlannedSite) (index : Nat) : Nat :=
  ((planned.find? (·.index = index)).map (·.sequence.size)).getD 0

section Planned

variable {plan : PlannedSite} {rest : List PlannedSite}

theorem plannedLength_cons_self : plannedLength (plan :: rest) plan.index = plan.sequence.size := by
  simp [plannedLength]

theorem plannedLength_cons_of_ne {index : Nat} (other : plan.index ≠ index) :
    plannedLength (plan :: rest) index = plannedLength rest index := by
  simp [plannedLength, other]

/-- Nothing is planned behind an instruction that is ahead of all planned ones. -/
theorem plannedLength_of_lt {index : Nat} (behind : ∀ later ∈ rest, index < later.index) :
    plannedLength rest index = 0 := by
  have absent : rest.find? (·.index = index) = none := by
    rw [List.find?_eq_none]
    intro later member
    have := behind later member
    simp only [decide_eq_true_eq]
    omega
  simp only [plannedLength, absent, Option.map_none, Option.getD_none]

/-- Inserting one sequence more in front of those already inserted shifts what they had moved. -/
theorem relocate_plannedLength_cons (behind : ∀ later ∈ rest, plan.index < later.index) (place : Nat) :
    relocate (plannedLength (plan :: rest)) place =
      shiftTarget plan.index plan.sequence.size (relocate (plannedLength rest) place) := by
  have unmoved : ∀ place ≤ plan.index, relocate (plannedLength rest) place = place := by
    intro place upTo
    apply relocate_eq_self
    intro i before
    apply plannedLength_of_lt
    intro later member
    have := behind later member
    omega
  induction place with
  | zero => simp [relocate_zero, shiftTarget]
  | succ place ih =>
    rw [relocate_succ, relocate_succ, ih]
    rcases Nat.lt_trichotomy place plan.index with before | here | past
    · rw [plannedLength_cons_of_ne (by omega), unmoved place (by omega)]
      rw [plannedLength_of_lt fun later member => Nat.lt_trans before (behind later member)]
      simp only [shiftTarget]
      split <;> split <;> omega
    · subst here
      rw [plannedLength_cons_self, unmoved _ (Nat.le_refl _), plannedLength_of_lt behind]
      simp [shiftTarget]
    · rw [plannedLength_cons_of_ne (by omega)]
      have above := @le_relocate (plannedLength rest) place
      simp only [shiftTarget]
      split <;> split <;> omega

end Planned

/-- The code with all planned sequences in it. -/
def insertAll (code : Array Instruction) (planned : List PlannedSite) : Array Instruction :=
  planned.foldr (fun plan code => insertAfter code plan.index plan.sequence) code

theorem insertAll_cons (code : Array Instruction) (plan : PlannedSite) (rest : List PlannedSite) :
    insertAll code (plan :: rest) = insertAfter (insertAll code rest) plan.index plan.sequence := rfl

/-- Inserting sequences changes the code of a method and nothing else. -/
theorem Method.insertSequences_eq (method : Method) (planned : List PlannedSite) :
    method.insertSequences planned = method.mapCode (insertAll · planned) := by
  induction planned with
  | nil =>
    simp only [insertSequences, mapCode, insertAll, List.foldr_nil, Option.map_id']
  | cons plan rest ih =>
    simp only [insertSequences, List.foldr_cons, insertAll] at ih ⊢
    rw [ih]
    simp only [mapCode, Option.map_map]
    rfl

/-- Plans that can be carried out: in ascending order, each behind an instruction of the code, with
straight-line hidden code. -/
structure Insertable (code : Array Instruction) (planned : List PlannedSite) : Prop where
  ascending : planned.Pairwise (·.index < ·.index)
  inside : ∀ plan ∈ planned, plan.index < code.size
  straight : ∀ plan ∈ planned, ∀ instruction ∈ plan.sequence, instruction.opcode.target? = none
  hidden : ∀ plan ∈ planned, ∀ instruction ∈ plan.sequence, instruction.isHidden

namespace Insertable

variable {code : Array Instruction} {plan : PlannedSite} {planned rest : List PlannedSite}

theorem behind (insertable : Insertable code (plan :: rest)) : ∀ later ∈ rest, plan.index < later.index :=
  (List.pairwise_cons.1 insertable.ascending).1

theorem tail (insertable : Insertable code (plan :: rest)) : Insertable code rest where
  ascending := (List.pairwise_cons.1 insertable.ascending).2
  inside later member := insertable.inside later (List.mem_cons_of_mem _ member)
  straight later member := insertable.straight later (List.mem_cons_of_mem _ member)
  hidden later member := insertable.hidden later (List.mem_cons_of_mem _ member)

theorem size_le_insertAll (code : Array Instruction) (planned : List PlannedSite) :
    code.size ≤ (insertAll code planned).size := by
  induction planned with
  | nil => exact Nat.le_refl _
  | cons plan rest ih =>
    rw [insertAll_cons, size_insertAfter]
    omega

theorem head_inside (insertable : Insertable code (plan :: rest)) : plan.index < (insertAll code rest).size :=
  Nat.lt_of_lt_of_le (insertable.inside plan (List.mem_cons_self ..)) (size_le_insertAll code rest)

/-- Every original instruction stands where its index was relocated to, and its target is relocated too. -/
theorem getElem?_relocated (insertable : Insertable code planned) (place : Nat) :
    (insertAll code planned)[relocate (plannedLength planned) place]? =
      code[place]?.map (·.mapTarget (relocate (plannedLength planned))) := by
  induction planned with
  | nil =>
    have still : relocate (plannedLength []) = fun place => place := by
      funext place
      exact relocate_eq_self fun _ _ => rfl
    simp only [insertAll, List.foldr_nil, still, Instruction.mapTarget, Opcode.mapTarget_id, Option.map_id']
  | cons plan rest ih =>
    have moved := relocate_plannedLength_cons insertable.behind
    rw [moved, insertAll_cons, getElem?_insertAfter_shifted insertable.head_inside, ih insertable.tail,
      Option.map_map]
    congr 1
    funext instruction
    simp only [Function.comp_apply, Instruction.mapTarget, Opcode.mapTarget_mapTarget, ← moved]

/-- Behind the new place of a planned instruction stands its sequence, unchanged by later insertions. -/
theorem getElem?_sequence (insertable : Insertable code planned) (member : plan ∈ planned) {offset : Nat}
    (within : offset < plan.sequence.size) :
    (insertAll code planned)[relocate (plannedLength planned) plan.index + 1 + offset]? = plan.sequence[offset]? := by
  induction planned with
  | nil => cases member
  | cons first rest ih =>
    have moved := relocate_plannedLength_cons insertable.behind
    rw [moved, insertAll_cons]
    rcases List.mem_cons.1 member with rfl | later
    · have still : relocate (plannedLength rest) plan.index = plan.index := by
        apply relocate_eq_self
        intro i before
        exact plannedLength_of_lt fun later member => Nat.lt_trans before (insertable.behind later member)
      have here : shiftTarget plan.index plan.sequence.size plan.index = plan.index := by simp [shiftTarget]
      rw [still, here]
      exact getElem?_insertAfter_inserted insertable.head_inside within
    · have above := insertable.behind plan later
      have lower := @le_relocate (plannedLength rest) plan.index
      have shifted :
          shiftTarget first.index first.sequence.size (relocate (plannedLength rest) plan.index) + 1 + offset =
          shiftTarget first.index first.sequence.size (relocate (plannedLength rest) plan.index + 1 + offset) := by
        simp only [shiftTarget]
        split <;> split <;> omega
      rw [shifted, getElem?_insertAfter_shifted insertable.head_inside, ih insertable.tail later,
        Array.getElem?_eq_getElem within, Option.map_some]
      congr 1
      have straight := insertable.straight plan (List.mem_cons_of_mem _ later) plan.sequence[offset]
        (Array.getElem_mem within)
      simp only [Instruction.mapTarget, Opcode.mapTarget_of_target?_none _ straight]

/-- A relocated instruction has the location it had. -/
theorem locationAt_relocated (insertable : Insertable code planned) (place : Nat) :
    locationAt (insertAll code planned) (relocate (plannedLength planned) place) = locationAt code place := by
  induction planned with
  | nil =>
    rw [@relocate_eq_self (plannedLength []) _ fun _ _ => rfl]
    rfl
  | cons plan rest ih =>
    rw [relocate_plannedLength_cons insertable.behind, insertAll_cons, locationAt_insertAfter insertable.head_inside
      (insertable.hidden plan (List.mem_cons_self ..)),
      ih insertable.tail]

end Insertable

end Faultline
