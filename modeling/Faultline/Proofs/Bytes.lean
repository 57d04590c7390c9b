import Mathlib.Tactic.Ring
import Faultline.Bytes
import Faultline.Proofs.Lists

namespace Faultline

theorem length_littleEndian (width n : Nat) : (littleEndian width n).length = width := by
  induction width generalizing n with
  | zero => rfl
  | succ width ih => rw [littleEndian, List.length_cons, ih]

/-- A number that fits the width is read back. -/
theorem ofLittleEndian_littleEndian {width n : Nat} (small : n < 256 ^ width) :
    ofLittleEndian (littleEndian width n) = n := by
  induction width generalizing n with
  | zero =>
    rw [pow_zero] at small
    exact (Nat.lt_one_iff.1 small).symm
  | succ width ih =>
    rw [pow_succ'] at small
    rw [littleEndian, ofLittleEndian, ih (Nat.div_lt_of_lt_mul small), UInt8.toNat_ofNat']
    exact Nat.mod_add_div n 256

theorem littleEndian_inj {width m n : Nat} (small : m < 256 ^ width) (small' : n < 256 ^ width)
    (same : littleEndian width m = littleEndian width n) : m = n := by
  rw [← ofLittleEndian_littleEndian small, same, ofLittleEndian_littleEndian small']

theorem ofLittleEndian_lt (bytes : Bytes) : ofLittleEndian bytes < 256 ^ bytes.length := by
  induction bytes with
  | nil => exact Nat.one_pos
  | cons byte rest ih =>
    have := byte.toNat_lt
    rw [ofLittleEndian, List.length_cons, pow_succ']
    omega

/-- Any bytes are the spelling of the number they are read as. -/
theorem littleEndian_ofLittleEndian (bytes : Bytes) : littleEndian bytes.length (ofLittleEndian bytes) = bytes := by
  induction bytes with
  | nil => rfl
  | cons byte rest ih =>
    have small := byte.toNat_lt
    have head : UInt8.ofNat (byte.toNat + 256 * ofLittleEndian rest) = byte := by
      rw [← UInt8.toNat_inj, UInt8.toNat_ofNat']
      omega
    have tail : (byte.toNat + 256 * ofLittleEndian rest) / 256 = ofLittleEndian rest := by omega
    rw [ofLittleEndian, List.length_cons, littleEndian, head, tail, ih]

theorem splitExactly_append (front back : Bytes) :
    splitExactly front.length (front ++ back) = some (front, back) := by
  induction front with
  | nil => rfl
  | cons byte front ih => simp only [List.length_cons, List.cons_append, splitExactly, ih, Option.map_some]

/-- A split that succeeds cuts the bytes in two, the first part as long as asked. -/
theorem splitExactly_eq_some {n : Nat} {bytes front back : Bytes}
    (split : splitExactly n bytes = some (front, back)) :
    bytes = front ++ back ∧ front.length = n := by
  induction n generalizing bytes front with
  | zero =>
    cases split
    exact ⟨rfl, rfl⟩
  | succ n ih =>
    cases bytes with
    | nil => cases split
    | cons byte rest =>
      obtain ⟨⟨first, last⟩, found, same⟩ := Option.map_eq_some_iff.1 split
      cases same
      obtain ⟨rfl, rfl⟩ := ih found
      exact ⟨rfl, rfl⟩

/-- Hexadecimal text determines its bytes: two objects of the store never share a file name. -/
theorem hexText_inj {bytes bytes' : Bytes} : hexText bytes = hexText bytes' ↔ bytes = bytes' := by
  have digits : ∀ m < 16, ∀ n < 16, (Nat.toDigits 16 m).headD '0' = (Nat.toDigits 16 n).headD '0' → m = n := by decide
  refine ⟨fun same => ?_, fun same => same ▸ rfl⟩
  refine flatMap_inj (fun _ => List.cons_ne_nil _ _) (fun byte _ byte' _ rest rest' here => ?_)
    (String.ofList_inj.1 same)
  have := byte.toNat_lt
  have := byte'.toNat_lt
  simp only [List.cons_append, List.nil_append, List.cons.injEq] at here
  have high := digits (byte.toNat / 16) (by omega) (byte'.toNat / 16) (by omega) here.1
  have low := digits (byte.toNat % 16) (by omega) (byte'.toNat % 16) (by omega) here.2.1
  refine ⟨?_, here.2.2⟩
  rw [← UInt8.toNat_inj]
  omega

end Faultline
