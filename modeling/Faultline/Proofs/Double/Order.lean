import Mathlib
import Faultline.Double.Basic

namespace Faultline.Double

open Float.Model
open Float.Model.UnpackedFloat (Sign unpackExponent unpackMantissa unpackSign)

/-- A number as a multiple of the least positive one. An infinity counts as the power of two that is next
above the finite numbers. -/
def numerator (x : Double) : Int :=
  if x.isNegative then -(x.significand * 2 ^ x.scale : Nat) else (x.significand * 2 ^ x.scale : Nat)

section Forms

/-- Which integer an unpacked number stands for, if it is in the form that every number but a NaN is unpacked to. -/
inductive Stands : UnpackedFloat → Int → Prop
  | infinity (sign : Sign) {scale : Nat} (top : scale = 2046) :
      Stands (.infinity sign) (sign.apply (2 ^ 52 * 2 ^ scale : Nat))
  | zero (sign : Sign) : Stands (.zero sign) 0
  | finite (sign : Sign) {m scale : Nat} (positive : 0 < m) (small : m < 2 ^ 53) (low : scale < 2046)
      (normal : scale = 0 ∨ 2 ^ 52 ≤ m) :
      Stands (.finite sign m (scale - 1074) positive) (sign.apply (m * 2 ^ scale : Nat))

variable {u v : UnpackedFloat} {m n : Int} {sign : Sign}

theorem scaled_lt {m n j k : Nat} (small : m < 2 ^ 53) (normal : 2 ^ 52 ≤ n) (below : j < k) :
    m * 2 ^ j < n * 2 ^ k := by
  obtain ⟨d, rfl⟩ := Nat.exists_eq_add_of_lt below
  calc m * 2 ^ j < 2 ^ 53 * 2 ^ j := Nat.mul_lt_mul_of_pos_right small (Nat.two_pow_pos j)
    _ = 2 ^ 52 * 2 ^ (j + 1) := by rw [pow_succ 2 j]; omega
    _ ≤ n * 2 ^ (j + d + 1) := Nat.mul_le_mul normal (Nat.pow_le_pow_right (by decide) (by omega))

/-- Numbers of one sign are ordered by exponent first, since only the least exponent has significands without
a leading bit. -/
theorem compare_scaled {m n j k : Nat} (small : m < 2 ^ 53) (small' : n < 2 ^ 53) (normal : j = 0 ∨ 2 ^ 52 ≤ m)
    (normal' : k = 0 ∨ 2 ^ 52 ≤ n) :
    (compare (j - 1074 : Int) (k - 1074)).then (compare m n) = compare (m * 2 ^ j) (n * 2 ^ k) := by
  rcases Nat.lt_trichotomy j k with below | rfl | above
  · rw [Int.compare_eq_lt.2 (by omega), Nat.compare_eq_lt.2 (scaled_lt small (normal'.resolve_left (by omega)) below)]
    rfl
  · have same : compare (j - 1074 : Int) (j - 1074) = .eq := by simp
    rw [same, Ordering.then]
    simpa only [cmp_eq_compare] using (cmp_mul_pos_right (Nat.two_pow_pos j) m n).symm
  · rw [Int.compare_eq_gt.2 (by omega), Nat.compare_eq_gt.2 (scaled_lt small' (normal.resolve_left (by omega)) above)]
    rfl

theorem compare_natCast (m n : Nat) : compare (m : Int) n = compare m n := by
  simpa only [cmp_eq_compare] using (Nat.strictMono_cast (α := Int)).cmp_map_eq m n

theorem compare_neg_natCast (m n : Nat) : compare (-m : Int) (-n) = (compare m n).swap := by
  rw [Nat.compare_swap]
  simpa only [cmp_eq_compare] using (Nat.strictMono_cast (α := Int)).neg.cmp_map_eq m n

theorem some_lt {m n : Int} (below : m < n) : some .lt = some (compare m n) := by rw [Int.compare_eq_lt.2 below]

theorem some_gt {m n : Int} (above : n < m) : some .gt = some (compare m n) := by rw [Int.compare_eq_gt.2 above]

theorem some_eq (n : Int) : some .eq = some (compare n n) := by simp

/-- An infinity compares as a numerator beyond those of all finite doubles. -/
theorem Stands.compare_infinity {k : Nat} (top : k = 2046) (h : Stands v n) :
    (UnpackedFloat.infinity sign).compare v = some (compare (sign.apply (2 ^ 52 * 2 ^ k : Nat)) n) := by
  have positive := Nat.two_pow_pos k
  cases h with
  | infinity sign' top' =>
    obtain rfl := top'.trans top.symm
    cases sign <;> cases sign' <;> simp only [Sign.apply]
    · exact some_eq _
    · exact some_lt (by omega)
    · exact some_gt (by omega)
    · exact some_eq _
  | zero =>
    cases sign <;> simp only [Sign.apply]
    · exact some_lt (by omega)
    · exact some_gt (by omega)
  | finite sign' _ small low _ =>
    have below := scaled_lt small (Nat.le_refl _) (low.trans_eq top.symm)
    cases sign <;> cases sign' <;> simp only [Sign.apply]
    · exact some_lt (by omega)
    · exact some_lt (by omega)
    · exact some_gt (by omega)
    · exact some_gt (by omega)

/-- Either zero compares as the numerator 0. -/
theorem Stands.compare_zero (h : Stands v n) : (UnpackedFloat.zero sign).compare v = some (compare 0 n) := by
  cases h with
  | @infinity sign' k =>
    have positive := Nat.two_pow_pos k
    cases sign' <;> simp only [Sign.apply]
    · exact some_gt (by omega)
    · exact some_lt (by omega)
  | zero => exact some_eq _
  | @finite sign' n k positive =>
    have positive := Nat.mul_pos positive (Nat.two_pow_pos k)
    cases sign' <;> simp only [Sign.apply]
    · exact some_gt (by omega)
    · exact some_lt (by omega)

/-- A finite double compares as its numerator over `2 ^ 1074`. -/
theorem Stands.compare_finite {m k : Nat} (positive : 0 < m) (small : m < 2 ^ 53) (low : k < 2046)
    (normal : k = 0 ∨ 2 ^ 52 ≤ m) (h : Stands v n) :
    (UnpackedFloat.finite sign m (k - 1074) positive).compare v = some
      (compare (sign.apply (m * 2 ^ k : Nat)) n) := by
  have positive := Nat.mul_pos positive (Nat.two_pow_pos k)
  cases h with
  | infinity sign' top =>
    have below := scaled_lt small (Nat.le_refl _) (low.trans_eq top.symm)
    cases sign <;> cases sign' <;> simp only [Sign.apply]
    · exact some_gt (by omega)
    · exact some_lt (by omega)
    · exact some_gt (by omega)
    · exact some_lt (by omega)
  | zero =>
    cases sign <;> simp only [Sign.apply]
    · exact some_lt (by omega)
    · exact some_gt (by omega)
  | @finite sign' n k' positive' small' low' normal' =>
    have positive' := Nat.mul_pos positive' (Nat.two_pow_pos k')
    have same := compare_scaled small small' normal normal'
    cases sign <;> cases sign' <;> simp only [Sign.apply]
    -- of two negative numbers the one of the lesser magnitude is the greater
    · rw [compare_neg_natCast, ← same]
      rfl
    · exact some_lt (by omega)
    · exact some_gt (by omega)
    · rw [compare_natCast, ← same]
      rfl

/-- Numbers in this form compare as the integers that they stand for. -/
theorem Stands.compare_eq (h : Stands u m) (h' : Stands v n) : u.compare v = some (compare m n) := by
  cases h with
  | infinity _ top => exact h'.compare_infinity top
  | zero => exact h'.compare_zero
  | finite _ positive small low normal => exact h'.compare_finite positive small low normal

end Forms

section Numbers

variable {x y : Double}

abbrev packed (x : Double) : BitVec Format.binary64.numBits := x.bits.toBitVec

theorem exponent_toNat_lt {exponent : BitVec 11} (inside : exponent ≠ -1#11) : exponent.toNat < 2047 := by
  have small : exponent.toNat < 2048 := exponent.isLt
  have other : exponent.toNat ≠ 2047 := fun h => inside (BitVec.eq_of_toNat_eq h)
  omega

/-- The significand of a number whose exponent is not the least has its leading bit above the fraction. -/
theorem leading_toNat (fraction : BitVec 52) : (1#1 ++ fraction).toNat = 2 ^ 52 + fraction.toNat := by
  rw [BitVec.toNat_append, Nat.shiftLeft_eq, Nat.mul_comm, ← Nat.two_pow_add_eq_or_of_lt fraction.isLt]
  rfl

theorem exponentField_eq (x : Double) : x.exponentField = (unpackExponent x.packed).toNat := by
  rw [exponentField, UInt64.toNat_shiftRight]
  rfl

theorem fractionField_eq (x : Double) : x.fractionField = (unpackMantissa x.packed).toNat := rfl

theorem isNegative_iff (x : Double) : x.isNegative = true ↔ unpackSign x.packed = 1#1 := by
  have bit : (unpackSign x.packed).toNat = (x.bits >>> 63).toNat := by
    rw [UInt64.toNat_shiftRight]
    have := x.bits.toNat_lt
    change x.bits.toNat >>> 63 % 2 = x.bits.toNat >>> 63
    omega
  rw [isNegative, decide_eq_true_iff, ← UInt64.toNat_inj, ← BitVec.toNat_inj, bit]
  rfl

/-- The numerator is the sign's image of a natural number. -/
theorem numerator_eq (x : Double) :
    x.numerator = (Sign.ofBitVec (unpackSign x.packed)).apply (x.significand * 2 ^ x.scale : Nat) := by
  rw [numerator]
  generalize x.significand * 2 ^ x.scale = magnitude
  by_cases negative : x.isNegative = true
  · rw [if_pos negative, (isNegative_iff x).1 negative]
    rfl
  · have positive : unpackSign x.packed = 0#1 :=
      (BitVec.eq_zero_or_eq_one _).resolve_right (mt (isNegative_iff x).2 negative)
    rw [if_neg negative, positive]
    rfl

theorem fraction_eq_zero (number : x.isNaN = false) (top : unpackExponent x.packed = -1#_) :
    unpackMantissa x.packed = 0#_ := by
  have field : x.exponentField = 2047 := by
    rw [exponentField_eq, top]
    rfl
  rw [isNaN, field] at number
  refine BitVec.eq_of_toNat_eq ?_
  simpa [fractionField_eq] using number

/-- Every number but a NaN is unpacked to a form that stands for its numerator. -/
theorem stands_unpack (number : x.isNaN = false) :
    Stands (UnpackedFloat.unpack Format.binary64 x.packed) x.numerator := by
  have size : (unpackMantissa x.packed).toNat < 2 ^ 52 := (unpackMantissa x.packed).isLt
  have field := exponentField_eq x
  have fraction := fractionField_eq x
  rw [UnpackedFloat.unpack, numerator_eq]
  split
  next top =>
    have none := fraction_eq_zero number top
    rw [top] at field
    rw [none] at fraction
    rw [if_pos none, significand, if_neg (by rw [field]; decide), fraction]
    exact .infinity _ (by rw [scale, field]; rfl)
  next inside =>
    have below := exponent_toNat_lt inside
    split
    next least =>
      rw [least] at field ⊢
      have lowest : x.scale = 0 := by rw [scale, field]; rfl
      rw [significand, if_pos (by rw [field]; rfl), lowest, fraction]
      split
      next none =>
        rw [none]
        cases Sign.ofBitVec _ <;> exact .zero _
      next some =>
        exact .finite _ _ (by omega) (by decide) (.inl rfl)
    next more =>
      have low : x.exponentField ≠ 0 := fun h => more (BitVec.eq_of_toNat_eq (field.symm.trans h))
      have leading := leading_toNat (unpackMantissa x.packed)
      have exponent : ((unpackExponent x.packed).toNat : Int) - ((1023 : Nat) + (52 : Nat)) = x.scale - 1074 := by
        rw [scale, ← field]
        omega
      have whole : x.significand = (1#1 ++ unpackMantissa x.packed).toNat := by
        rw [significand, if_neg low, leading, fraction, Nat.add_comm]
        rfl
      rw [whole, show Format.binary64.exponentBias = 1023 from rfl, exponent]
      exact .finite _ _ (by omega) (by rw [scale]; omega) (.inr (by omega))

theorem unpack_toFloat (number : x.isNaN = false) :
    x.toFloat.toModel.unpack = UnpackedFloat.unpack Format.binary64 x.packed := by
  have bits : UnpackedFloat.isNaNBits x.packed = false := decide_eq_false fun nan =>
    nan.2 (fraction_eq_zero number nan.1)
  have same := UnpackedFloat.pack_unpack x.packed
  rw [bits] at same
  exact congrArg (UnpackedFloat.unpack Format.binary64) same

theorem compare_eq (number : x.isNaN = false) (number' : y.isNaN = false) :
    x.toFloat.toModel.unpack.compare y.toFloat.toModel.unpack = some (compare x.numerator y.numerator) := by
  rw [unpack_toFloat number, unpack_toFloat number']
  exact (stands_unpack number).compare_eq (stands_unpack number')

theorem eq_iff (number : x.isNaN = false) (number' : y.isNaN = false) :
    x.eq y = true ↔ x.numerator = y.numerator := by
  change (x.toFloat.toModel.unpack.compare y.toFloat.toModel.unpack == some .eq) = true ↔ _
  rw [compare_eq number number']
  simp

theorem lt_iff (number : x.isNaN = false) (number' : y.isNaN = false) :
    x.lt y = true ↔ x.numerator < y.numerator := by
  rw [lt, decide_eq_true_iff]
  change (decide ((x.toFloat.toModel.unpack.compare y.toFloat.toModel.unpack == some .lt) = true)) = true ↔ _
  rw [compare_eq number number']
  simp [Int.compare_eq_lt]

end Numbers

section Parts

variable {x : Double} {negative : Bool} {field m k : Nat}

/-- What the fields of a number are that is given by its sign and the bits below. -/
theorem fields_of_toNat (inside : field < 2 ^ 63) (bits : x.bits.toNat = field + if negative then 2 ^ 63 else 0) :
    x.exponentField = field / 2 ^ 52 ∧ x.fractionField = field % 2 ^ 52 ∧ x.isNegative = negative := by
  refine ⟨?_, ?_, ?_⟩
  · rw [exponentField, UInt64.toNat_shiftRight, bits, Nat.shiftRight_eq_div_pow]
    change _ / 2 ^ 52 % 2048 = _
    split <;> omega
  · rw [fractionField, bits]
    change _ % 2 ^ 52 = _
    split <;> omega
  · have top : (x.bits >>> 63).toNat = if negative then 1 else 0 := by
      rw [UInt64.toNat_shiftRight, bits, Nat.shiftRight_eq_div_pow]
      change _ / 2 ^ 63 = _
      split <;> omega
    rw [Bool.eq_iff_iff, isNegative, decide_eq_true_iff, ← UInt64.toNat_inj, top]
    cases negative <;> decide

/-- Doubling a significand up to the scale brings its leading bit to its place, if the scale allows for it. -/
theorem doubled (small : m < 2 ^ 53) :
    m <<< min k (52 - m.log2) < 2 ^ 53 ∧ (m = 0 ∨ min k (52 - m.log2) = k ∨ 2 ^ 52 ≤ m <<< min k (52 - m.log2)) := by
  rcases Nat.eq_zero_or_pos m with rfl | positive
  · exact ⟨by simp, .inl rfl⟩
  · have few : m.log2 < 53 := (Nat.log2_lt (by omega)).2 small
    rw [Nat.shiftLeft_eq]
    constructor
    · calc m * 2 ^ min k (52 - m.log2)
        _ ≤ m * 2 ^ (52 - m.log2) := Nat.mul_le_mul_left m (Nat.pow_le_pow_right (by decide) (Nat.min_le_right ..))
        _ < 2 ^ (m.log2 + 1) * 2 ^ (52 - m.log2) := Nat.mul_lt_mul_of_pos_right Nat.lt_log2_self (Nat.two_pow_pos _)
        _ = 2 ^ 53 := by rw [← Nat.pow_add]; congr 1; omega
    · by_cases all : k ≤ 52 - m.log2
      · exact .inr (.inl (Nat.min_eq_left all))
      · rw [Nat.min_eq_right (by omega)]
        refine .inr (.inr ?_)
        calc 2 ^ 52
          _ = 2 ^ m.log2 * 2 ^ (52 - m.log2) := by rw [← Nat.pow_add]; congr 1; omega
          _ ≤ m * 2 ^ (52 - m.log2) := Nat.mul_le_mul_right _ (Nat.log2_self_le (by omega))

/-- Parts that have a binary64 form are parts of the number. -/
theorem ofParts_spec (negative : Bool) (small : m < 2 ^ 53) (low : k < 2046) :
    (ofParts negative m k).isNaN = false ∧
      (ofParts negative m k).numerator = if negative then -((m * 2 ^ k : Nat) : Int) else (m * 2 ^ k : Nat) := by
  obtain ⟨normalSmall, normalLeads⟩ := doubled small (k := k)
  have shifts : min k (52 - m.log2) ≤ k := Nat.min_le_left ..
  have bits : (ofParts negative m k).bits.toNat =
      (if m <<< min k (52 - m.log2) < 2 ^ 52 then m <<< min k (52 - m.log2)
        else m <<< min k (52 - m.log2) + (k - min k (52 - m.log2)) * 2 ^ 52) + if negative then 2 ^ 63 else 0 := by
    rw [ofParts]
    refine UInt64.toNat_ofNat_of_lt' ?_
    generalize min k (52 - m.log2) = shift at *
    change (if _ < 2 ^ 52 then _ else _ + _ * 2 ^ 52) + (if _ then 0x8000000000000000 else 0) < 2 ^ 64
    split <;> split <;> omega
  generalize min k (52 - m.log2) = shift at *
  rw [Nat.shiftLeft_eq] at *
  split at bits
  next short =>
    -- nothing but a zero stays short of the leading bit unless the whole scale was used up
    obtain ⟨exponentIs, fractionIs, signIs⟩ := fields_of_toNat (by omega) bits
    have lowest : (ofParts negative m k).exponentField = 0 := by omega
    have all : m * 2 ^ shift = m * 2 ^ k := by
      rcases normalLeads with rfl | rfl | leads
      · simp
      · rfl
      · omega
    refine ⟨by simp [isNaN, lowest], ?_⟩
    have unscaled : 2 ^ (ofParts negative m k).scale = 1 := by rw [scale, lowest]; rfl
    rw [numerator, signIs, significand, unscaled, if_pos lowest, fractionIs, Nat.mod_eq_of_lt short, all, Nat.mul_one]
  next long =>
    obtain ⟨exponentIs, fractionIs, signIs⟩ := fields_of_toNat (by omega) bits
    have scaleIs : (ofParts negative m k).scale = k - shift := by rw [scale]; omega
    have exponentPos : (ofParts negative m k).exponentField ≠ 0 := by omega
    have significandIs : (ofParts negative m k).significand = m * 2 ^ shift := by
      rw [significand, if_neg exponentPos, leadingBit]
      omega
    refine ⟨?_, ?_⟩
    · have inside : (ofParts negative m k).exponentField ≠ 2047 := by omega
      simp [isNaN, inside]
    · rw [numerator, signIs, significandIs, scaleIs, Nat.mul_assoc, ← Nat.pow_add, Nat.add_sub_cancel' shifts]

/-- A 32-bit integer is converted exactly. -/
theorem ofInt32_spec (n : Int32) : (ofInt32 n).isNaN = false ∧ (ofInt32 n).numerator = n.toInt * 2 ^ 1074 := by
  have small : n.toInt.natAbs < 2 ^ 53 := by
    have := n.toInt_lt
    have := n.le_toInt
    omega
  rw [ofInt32]
  obtain ⟨number, numeratorIs⟩ := ofParts_spec (n.toInt < 0) small (by decide : 1074 < 2046)
  generalize 1074 = k at *
  refine ⟨number, numeratorIs.trans ?_⟩
  rw [Int.natCast_mul, Int.natCast_pow]
  by_cases negative : n.toInt < 0
  · rw [if_pos (decide_eq_true negative), ← Int.neg_mul, Int.ofNat_natAbs_of_nonpos (Int.le_of_lt negative),
      Int.neg_neg]
    rfl
  · rw [if_neg (by simpa using negative), Int.natAbs_of_nonneg (by omega)]
    rfl

end Parts

end Faultline.Double
