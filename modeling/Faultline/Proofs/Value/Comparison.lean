import Faultline.Machine.Operator
import Faultline.Proofs.Double.Order

namespace Faultline.Value

/-- Whether a value is a NaN or holds one in its box. -/
def hasNaN : Value → Bool
  | float64 x => x.isNaN
  | boxed inner => inner.hasNaN
  | _ => false

/-- The number of a numeric value, as a multiple of the least positive float. -/
def number? : Value → Option Int
  | int32 n => some (n.toInt * 2 ^ 1074)
  | int64 n => some (n.toInt * 2 ^ 1074)
  | float64 x => some x.numerator
  | _ => none

/-- A 64-bit integer and a float, the one pair of numeric types that has no comparison. -/
inductive Apart : Value → Value → Prop
  | integer (n : Int64) (x : Double) : Apart (int64 n) (float64 x)
  | float (x : Double) (n : Int64) : Apart (float64 x) (int64 n)

/-- Values of one type that are equal, at the top or in boxes. -/
inductive Matches : Value → Value → Prop
  | refl (a : Value) : Matches a a
  | float64 {x y : Double} (same : x.numerator = y.numerator) : Matches (float64 x) (float64 y)
  | object {r s : Reference} (same : r.id = s.id) : Matches (object r) (object s)
  | boxed {a b : Value} (inner : Matches a b) : Matches (boxed a) (boxed b)

variable {a b c : Value} {m n : Int} {x y : Double}

section Equality

theorem Matches.symm (h : Matches a b) : Matches b a := by
  induction h with
  | refl a => exact .refl a
  | float64 same => exact .float64 same.symm
  | object same => exact .object same.symm
  | boxed _ ih => exact .boxed ih

/-- Values that match a third one match each other, whatever their numeric types. -/
theorem Matches.trans (h : Matches a b) (h' : Matches b c) : Matches a c := by
  induction h generalizing c with
  | refl => exact h'
  | float64 same =>
    cases h' with
    | refl => exact .float64 same
    | float64 same' => exact .float64 (same.trans same')
  | object same =>
    cases h' with
    | refl => exact .object same
    | object same' => exact .object (same.trans same')
  | boxed inner ih =>
    cases h' with
    | refl => exact .boxed inner
    | boxed inner' => exact .boxed (ih inner')

theorem Matches.number?_eq (h : Matches a b) : a.number? = b.number? := by
  cases h with
  | float64 same => exact congrArg some same
  | _ => rfl

theorem equals_self (number : a.hasNaN = false) : a.equals a = true := by
  induction a with
  | float64 x => exact (Double.eq_iff number number).2 rfl
  | boxed inner ih => exact ih number
  | _ => simp [equals]

/-- Without NaN two values are equal exactly when they match. -/
theorem equals_iff (number : a.hasNaN = false) (number' : b.hasNaN = false) : a.equals b = true ↔ Matches a b := by
  constructor
  · intro h
    fun_induction equals a b with
    -- only floats, objects and boxes are compared by something else than what they are
    | case5 x y => exact .float64 ((Double.eq_iff number number').1 h)
    | case8 r s => exact .object (of_decide_eq_true h)
    | case9 a b ih => exact .boxed (ih number number' h)
    | case10 => cases h
    | _ => simp_all [Matches.refl]
  · intro h
    induction h with
    | refl => exact equals_self number
    | float64 same => exact (Double.eq_iff number number').2 same
    | object same => exact decide_eq_true same
    | boxed _ ih => exact ih number number'

end Equality

section Numbers

/-- Two numbers compare as their numerators do. -/
theorem compareDoubles_eq (number : x.isNaN = false) (number' : y.isNaN = false) :
    compareDoubles x y = some (compare x.numerator y.numerator) := by
  have less := Double.lt_iff number number'
  have more := Double.lt_iff number' number
  have same := Double.eq_iff number number'
  rw [compareDoubles]
  rcases Int.lt_trichotomy x.numerator y.numerator with below | equal | above
  · rw [if_pos (less.2 below), Int.compare_eq_lt.2 below]
  · rw [if_neg (mt less.1 (by omega)), if_neg (mt more.1 (by omega)), if_pos (same.2 equal),
      Int.compare_eq_eq.2 equal]
  · rw [if_neg (mt less.1 (by omega)), if_pos (more.2 above), Int.compare_eq_gt.2 above]

theorem multiples_inj {k : Nat} : m * 2 ^ k = n * 2 ^ k ↔ m = n :=
  Int.mul_eq_mul_right_iff (Int.pow_ne_zero (by decide))

theorem compare_multiples (m n : Int) (k : Nat) : compare (m * 2 ^ k) (n * 2 ^ k) = compare m n := by
  simpa only [cmp_eq_compare] using cmp_mul_pos_right (pow_pos (by decide : (0 : Int) < 2) k) m n

/-- Numbers are equal and in order as they are exactly, whatever their types, where there is a comparison. -/
theorem compares_of_number? (number : a.hasNaN = false) (number' : b.hasNaN = false) (first : a.number? = some m)
    (second : b.number? = some n) (comparable : ¬Apart a b) :
    a.order b = .ok (some (compare m n)) ∧ (a.isEqual b = true ↔ m = n) := by
  cases a with
  | int32 x =>
    cases first
    cases b with
    | int32 y =>
      cases second
      rw [order, compare_multiples, multiples_inj, Int32.toInt_inj]
      exact ⟨rfl, decide_eq_true_iff⟩
    | int64 y =>
      cases second
      rw [order, compare_multiples, multiples_inj, ← Int32.toInt_toInt64, Int64.toInt_inj]
      exact ⟨rfl, decide_eq_true_iff⟩
    | float64 y =>
      cases second
      obtain ⟨converted, exact⟩ := Double.ofInt32_spec x
      rw [order, compareDoubles_eq converted number', isEqual, Double.eq_iff converted number', exact]
      exact ⟨rfl, .rfl⟩
    | _ => cases second
  | int64 x =>
    cases first
    cases b with
    | int32 y =>
      cases second
      rw [order, compare_multiples, multiples_inj, ← Int32.toInt_toInt64, Int64.toInt_inj]
      exact ⟨rfl, decide_eq_true_iff⟩
    | int64 y =>
      cases second
      rw [order, compare_multiples, multiples_inj, Int64.toInt_inj]
      exact ⟨rfl, decide_eq_true_iff⟩
    | float64 y => exact absurd (.integer x y) comparable
    | _ => cases second
  | float64 x =>
    cases first
    cases b with
    | int32 y =>
      cases second
      obtain ⟨converted, exact⟩ := Double.ofInt32_spec y
      rw [order, compareDoubles_eq number converted, isEqual, Double.eq_iff number converted, exact]
      exact ⟨rfl, .rfl⟩
    | int64 y => exact absurd (.float x y) comparable
    | float64 y =>
      cases second
      rw [order, compareDoubles_eq number number']
      exact ⟨rfl, Double.eq_iff number number'⟩
    | _ => cases second
  | _ => cases first

/-- Values that are not both numbers are compared as they are. -/
theorem isEqual_eq_equals (other : a.number? = none ∨ b.number? = none) : a.isEqual b = a.equals b := by
  unfold isEqual
  split
  · simp only [number?, reduceCtorEq, or_self] at other
  · simp only [number?, reduceCtorEq, or_self] at other
  · simp only [number?, reduceCtorEq, or_self] at other
  · simp only [number?, reduceCtorEq, or_self] at other
  · rfl

end Numbers

theorem Apart.isEqual_eq (apart : Apart a b) : a.isEqual b = false := by
  cases apart <;> rfl

theorem Apart.symm (apart : Apart a b) : Apart b a := by
  cases apart <;> constructor

theorem Apart.not_matches (apart : Apart a b) : ¬Matches a b := by
  cases apart <;> exact nofun

/-- What a program finds equal are values that match, and equal numbers of types that have a comparison. -/
theorem isEqual_iff (number : a.hasNaN = false) (number' : b.hasNaN = false) :
    a.isEqual b = true ↔ ¬Apart a b ∧ (Matches a b ∨ ∃ n, a.number? = some n ∧ b.number? = some n) := by
  by_cases apart : Apart a b
  · simp [apart, apart.isEqual_eq]
  rw [and_iff_right apart]
  rcases left : a.number? with _ | m
  · rw [isEqual_eq_equals (.inl left), equals_iff number number']
    simp
  rcases right : b.number? with _ | n
  · rw [isEqual_eq_equals (.inr right), equals_iff number number']
    simp
  rw [(compares_of_number? number number' left right apart).2]
  constructor
  · rintro rfl
    exact .inr ⟨m, rfl, rfl⟩
  · rintro (same | ⟨k, isLeft, isRight⟩)
    · exact Option.some.inj (left.symm.trans (same.number?_eq.trans right))
    · exact Option.some.inj (isLeft.trans isRight.symm)

theorem isEqual_comm (number : a.hasNaN = false) (number' : b.hasNaN = false) : a.isEqual b = b.isEqual a := by
  rw [Bool.eq_iff_iff, isEqual_iff number number', isEqual_iff number' number]
  refine and_congr (not_congr ⟨Apart.symm, Apart.symm⟩) (or_congr ⟨Matches.symm, Matches.symm⟩ ?_)
  exact exists_congr fun n => And.comm

/-- Two values that equal a third one are equal, unless they are apart. -/
theorem isEqual_trans (first : a.hasNaN = false) (second : b.hasNaN = false) (third : c.hasNaN = false)
    (h : a.isEqual b = true) (h' : b.isEqual c = true) : a.isEqual c = true ↔ ¬Apart a c := by
  obtain ⟨_, left⟩ := (isEqual_iff first second).1 h
  obtain ⟨_, right⟩ := (isEqual_iff second third).1 h'
  refine (isEqual_iff first third).trans (and_iff_left ?_)
  rcases left with left | ⟨m, isLeft, middle⟩
  · rcases right with right | ⟨n, middle, isRight⟩
    · exact .inl (left.trans right)
    · exact .inr ⟨n, left.number?_eq.trans middle, isRight⟩
  · refine .inr ⟨m, isLeft, ?_⟩
    rcases right with right | ⟨n, middle', isRight⟩
    · exact right.number?_eq.symm.trans middle
    · rwa [isRight, ← middle']

/-- Only numbers of types that have a comparison, characters and strings are in an order. -/
theorem order_cases {o : Option Ordering} (h : a.order b = .ok o) :
    (∃ m n, a.number? = some m ∧ b.number? = some n ∧ ¬Apart a b) ∨ (∃ x y, a = char x ∧ b = char y) ∨
      ∃ x y, a = string x ∧ b = string y := by
  unfold order at h
  split at h
  case h_8 x y => exact .inr (.inl ⟨x, y, rfl, rfl⟩)
  case h_9 x y => exact .inr (.inr ⟨x, y, rfl, rfl⟩)
  case h_10 => cases h
  all_goals exact .inl ⟨_, _, rfl, rfl, nofun⟩

/-- Values in an order are in the opposite one the other way round, and are equal when neither comes first. -/
theorem order_spec (number : a.hasNaN = false) (number' : b.hasNaN = false) {o : Option Ordering}
    (h : a.order b = .ok o) :
    ∃ ordering, o = some ordering ∧ b.order a = .ok (some ordering.swap) ∧ (a.isEqual b = true ↔ ordering = .eq) := by
  obtain ⟨m, n, left, right, apart⟩ | ⟨x, y, rfl, rfl⟩ | ⟨x, y, rfl, rfl⟩ := order_cases h
  · obtain ⟨ordered, same⟩ := compares_of_number? number number' left right apart
    obtain ⟨reversed, _⟩ := compares_of_number? number' number right left (mt Apart.symm apart)
    refine ⟨compare m n, Except.ok.inj (h.symm.trans ordered), ?_, same.trans Int.compare_eq_eq.symm⟩
    rw [reversed, Std.OrientedOrd.eq_swap]
  · refine ⟨compare x y, (Except.ok.inj h).symm, ?_, ?_⟩
    · rw [order, Std.OrientedOrd.eq_swap]
    · exact decide_eq_true_iff.trans Std.LawfulEqOrd.compare_eq_iff_eq.symm
  · refine ⟨compare x y, (Except.ok.inj h).symm, ?_, ?_⟩
    · rw [order, Std.OrientedOrd.eq_swap]
    · exact decide_eq_true_iff.trans Std.LawfulEqOrd.compare_eq_iff_eq.symm

/-- Comparisons of values without a NaN are coherent, but for values that are apart: these are not equal even
where a third one equals both. -/
theorem comparisons_coherent (first : a.hasNaN = false) (second : b.hasNaN = false) (third : c.hasNaN = false) :
    a.isEqual a = true ∧ a.isEqual b = b.isEqual a ∧
    (a.isEqual b = true → b.isEqual c = true → (a.isEqual c = true ↔ ¬Apart a c)) ∧
    (∀ value, a.isLess b = .ok value → ∃ less greater, value = bool less ∧ a.isGreater b = .ok (bool greater) ∧
      [less, a.isEqual b, greater].count true = 1 ∧ b.isGreater a = .ok (bool less) ∧
      b.isLess a = .ok (bool greater)) := by
  refine ⟨?_, isEqual_comm first second, isEqual_trans first second third, ?_⟩
  · exact (isEqual_iff first first).2 ⟨fun apart => apart.not_matches (.refl a), .inl (.refl a)⟩
  intro value succeeds
  rw [isLess] at succeeds
  rcases ordered : a.order b with _ | o
  · rw [ordered] at succeeds
    cases succeeds
  rw [ordered] at succeeds
  obtain ⟨ordering, rfl, reversed, same⟩ := order_spec first second ordered
  have equal : a.isEqual b = decide (ordering = .eq) := Bool.eq_iff_iff.2 (same.trans decide_eq_true_iff.symm)
  cases succeeds
  refine ⟨ordering = .lt, ordering = .gt, ?_, ?_, ?_, ?_, ?_⟩
  · cases ordering <;> rfl
  · rw [isGreater, ordered]
    cases ordering <;> rfl
  · rw [equal]
    cases ordering <;> rfl
  · rw [isGreater, reversed]
    cases ordering <;> rfl
  · rw [isLess, reversed]
    cases ordering <;> rfl

/-- Both zeros equal the integer zero, and so each other; the least float is above all three. -/
theorem comparisons_coherent_zeros :
    (float64 ⟨0⟩).isEqual (float64 ⟨0x8000000000000000⟩) = true ∧
    ∃ less greater, (float64 ⟨1⟩).isLess (int32 0) = .ok (bool less) ∧
      (float64 ⟨1⟩).isGreater (int32 0) = .ok (bool greater) ∧
      [less, (float64 ⟨1⟩).isEqual (int32 0), greater].count true = 1 ∧
      (int32 0).isGreater (float64 ⟨1⟩) = .ok (bool less) := by
  obtain ⟨_, _, handed, _⟩ :=
    comparisons_coherent (a := float64 ⟨0⟩) (b := int32 0) (c := float64 ⟨0x8000000000000000⟩) (by decide) rfl
      (by decide)
  obtain ⟨_, _, _, ordered⟩ := comparisons_coherent (a := float64 ⟨1⟩) (b := int32 0) (c := int32 0)
    (by decide) rfl rfl
  refine ⟨(handed (by decide +kernel) (by decide +kernel)).2 nofun, ?_⟩
  obtain ⟨less, greater, isLess, isGreater, one, reversed, _⟩ := ordered (bool false) (by rfl)
  exact ⟨less, greater, isLess ▸ rfl, isGreater, one, reversed⟩

/-- A 32-bit integer equals both the 64-bit one and the float of its number, which are not equal. -/
theorem isEqual_not_trans :
    (int64 5).isEqual (int32 5) = true ∧ (int32 5).isEqual (float64 ⟨0x4014000000000000⟩) = true ∧
      (int64 5).isEqual (float64 ⟨0x4014000000000000⟩) = false := by
  exact ⟨by decide, by decide +kernel, rfl⟩

end Faultline.Value
