import Faultline.Machine.Step
import Faultline.Proofs.Value.Alike

namespace Faultline

/-- How the calls and errors of two machines are compared while they do the same at corresponding places. A
place is a method with the instruction pointer, which has moved past the instruction being executed. -/
structure Matching where
  place : Method → Nat → Method → Nat → Prop
  failure : RuntimeError → RuntimeError → Prop
  name_eq : ∀ {method pointer method' pointer'}, place method pointer method' pointer' →
    method'.qualifiedName = method.qualifiedName
  returns_eq : ∀ {method pointer method' pointer'}, place method pointer method' pointer' →
    method'.returns = method.returns
  plain : ∀ error, error.isPlain → failure error error
  underflow : ∀ {method pointer method' pointer'}, place method pointer method' pointer' →
    failure (.stackUnderflow method.qualifiedName (pointer - 1))
    (.stackUnderflow method'.qualifiedName (pointer' - 1))
  thrown : ∀ {frames frames' : List Frame} (text : String),
    List.Forall₂ (fun frame frame' => place frame.method frame.pointer frame'.method frame'.pointer) frames frames' →
    failure (.thrown text (frames.map Frame.describe)) (.thrown text (frames'.map Frame.describe))

/-- The same comparison of calls that stand at two given places. -/
def Matching.at (matching : Matching) (frame frame' : Frame) : Matching where
  place method pointer method' pointer' := matching.place method pointer method' pointer' ∧
    (method = frame.method ∧ pointer = frame.pointer) ∧ method' = frame'.method ∧ pointer' = frame'.pointer
  failure := matching.failure
  name_eq := fun ⟨there, _⟩ => matching.name_eq there
  returns_eq := fun ⟨there, _⟩ => matching.returns_eq there
  plain := matching.plain
  underflow := fun ⟨there, _⟩ => matching.underflow there
  thrown text places := matching.thrown text (places.imp fun _ _ there => there.1)

/-- What two memories have in common where their objects are paired. -/
structure Memory.Alike (pairing : Nat → Nat → Prop) (memory memory' : Memory) : Prop
    extends Heap.Alike pairing memory.heap memory'.heap where
  statics : Table.Alike (Value.Alike pairing) memory.statics memory'.statics

/-- Calls with the same variables and operands, up to the pairing. -/
structure Frame.Alike (pairing : Nat → Nat → Prop) (frame frame' : Frame) : Prop where
  args : List.Forall₂ (Value.Alike pairing) frame.args.toList frame'.args.toList
  locals : List.Forall₂ (Value.Alike pairing) frame.locals.toList frame'.locals.toList
  stack : List.Forall₂ (Value.Alike pairing) frame.stack frame'.stack

structure Frame.Matches (matching : Matching) (pairing : Nat → Nat → Prop) (frame frame' : Frame) : Prop
    extends Frame.Alike pairing frame frame' where
  place : matching.place frame.method frame.pointer frame'.method frame'.pointer

theorem Frame.Alike.mono {pairing pairing' : Nat → Nat → Prop} {frame frame' : Frame}
    (h : Frame.Alike pairing frame frame') (more : ∀ x y, pairing x y → pairing' x y) :
    Frame.Alike pairing' frame frame' :=
  ⟨h.args.imp fun _ _ => .mono more, h.locals.imp fun _ _ => .mono more, h.stack.imp fun _ _ => .mono more⟩

namespace Frame.Matches

variable {matching : Matching} {pairing : Nat → Nat → Prop} {frame frame' : Frame}

theorem mono {pairing' : Nat → Nat → Prop} (h : Frame.Matches matching pairing frame frame')
    (more : ∀ x y, pairing x y → pairing' x y) : Frame.Matches matching pairing' frame frame' :=
  ⟨h.toAlike.mono more, h.place⟩

theorem underflow (h : Frame.Matches matching pairing frame frame') :
    matching.failure frame.underflow frame'.underflow :=
  matching.underflow h.place

theorem push (h : Frame.Matches matching pairing frame frame') {value value' : Value}
    (alike : Value.Alike pairing value value') :
    Frame.Matches matching pairing (frame.push value) (frame'.push value') :=
  ⟨⟨h.args, h.locals, .cons alike h.stack⟩, h.place⟩

/-- Matching frames pop alike values, or are both empty. -/
theorem pop (h : Frame.Matches matching pairing frame frame') :
    Agree matching.failure
      (fun popped popped' => Value.Alike pairing popped.1 popped'.1 ∧
        Frame.Matches matching pairing popped.2 popped'.2)
      frame.pop frame'.pop := by
  have failing := h.underflow
  have stack := h.stack
  unfold Frame.pop
  generalize under : frame.stack = values at stack
  generalize under' : frame'.stack = values' at stack
  cases stack with
  | nil => exact .error failing
  | cons top rest => exact .ok ⟨top, ⟨h.args, h.locals, rest⟩, h.place⟩

/-- Matching frames pop alike lists of values, or both have too few. -/
theorem popMany (h : Frame.Matches matching pairing frame frame') (n : Nat) :
    Agree matching.failure
      (fun popped popped' => List.Forall₂ (Value.Alike pairing) popped.1 popped'.1 ∧
        Frame.Matches matching pairing popped.2 popped'.2)
      (frame.popMany n) (frame'.popMany n) := by
  unfold Frame.popMany
  rw [← h.stack.length_eq]
  split
  · exact .error h.underflow
  · exact .ok ⟨List.forall₂_reverse_iff.2 (List.forall₂_take n h.stack),
      ⟨h.args, h.locals, List.forall₂_drop n h.stack⟩, h.place⟩

theorem slots (h : Frame.Matches matching pairing frame frame') (kind : SlotKind) :
    List.Forall₂ (Value.Alike pairing) (frame.slots kind).toList (frame'.slots kind).toList := by
  cases kind with
  | «local» => exact h.locals
  | argument => exact h.args

theorem withSlots (h : Frame.Matches matching pairing frame frame') {values values' : Array Value}
    (alike : List.Forall₂ (Value.Alike pairing) values.toList values'.toList) (kind : SlotKind) :
    Frame.Matches matching pairing (frame.withSlots values kind) (frame'.withSlots values' kind) := by
  cases kind with
  | «local» => exact ⟨⟨h.args, alike, h.stack⟩, h.place⟩
  | argument => exact ⟨⟨alike, h.locals, h.stack⟩, h.place⟩

theorem invalidSlot (h : Frame.Matches matching pairing frame frame') (kind : SlotKind) (index : UInt16) :
    matching.failure (frame.invalidSlot kind index) (frame'.invalidSlot kind index) := by
  simp only [Frame.invalidSlot, matching.name_eq h.place]
  exact matching.plain _ rfl

/-- Matching frames hold alike values in every slot, and fail alike where there is none. -/
theorem getSlot (h : Frame.Matches matching pairing frame frame') (kind : SlotKind) (index : UInt16) :
    Agree matching.failure (Value.Alike pairing) (frame.getSlot kind index) (frame'.getSlot kind index) := by
  unfold Frame.getSlot
  rw [← Array.getElem?_toList, ← Array.getElem?_toList]
  rcases forall₂_getElem? (h.slots kind) index.toNat with ⟨absent, absent'⟩ | ⟨a, b, found, found', alike⟩
  · simp only [absent, absent']
    exact .error (h.invalidSlot kind index)
  · simp only [found, found']
    exact .ok alike

/-- An alike value stored in one slot keeps two frames matching. -/
theorem setSlot (h : Frame.Matches matching pairing frame frame') (kind : SlotKind) (index : UInt16)
    {value value' : Value} (alike : Value.Alike pairing value value') :
    Agree matching.failure (Frame.Matches matching pairing) (frame.setSlot kind index value)
      (frame'.setSlot kind index value') := by
  have size : (frame'.slots kind).size = (frame.slots kind).size := by
    rw [← Array.length_toList, ← Array.length_toList, (h.slots kind).length_eq]
  unfold Frame.setSlot
  by_cases inside : index.toNat < (frame.slots kind).size
  · rw [dif_pos inside, dif_pos (size ▸ inside)]
    refine .ok (h.withSlots ?_ kind)
    rw [Array.toList_set, Array.toList_set]
    exact forall₂_set (h.slots kind) alike _
  · rw [dif_neg inside, dif_neg (size ▸ inside)]
    exact .error (h.invalidSlot kind index)

end Frame.Matches

end Faultline
