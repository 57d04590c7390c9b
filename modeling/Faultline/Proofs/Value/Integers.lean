import Mathlib.Algebra.Group.Nat.Defs
import Faultline.Machine.Operator

namespace Faultline

/-- The two widths of a program's integers. -/
inductive Width where
  | single
  | double
deriving DecidableEq

namespace Width

def bits : Width → Nat
  | single => 32
  | double => 64

/-- The width at which integers of two widths meet. -/
def wider : Width → Width → Width
  | single, single => single
  | _, _ => double

/-- A number in two's complement of the width. -/
def reduce (width : Width) (n : Int) : Int := n.bmod (2 ^ width.bits)

theorem wider_wider (v w : Width) : (v.wider w).wider w = v.wider w := by
  cases v <;> cases w <;> rfl

theorem wider_self (w : Width) : w.wider w = w := by cases w <;> rfl

/-- What is reduced before a sum of products is reduced after it as well. -/
theorem reduce_mul_add (w : Width) (q y r : Int) :
    w.reduce (w.reduce (w.reduce q * y) + w.reduce r) = w.reduce (q * y + r) := by
  simp only [reduce, Int.bmod_mul_bmod, Int.add_bmod_bmod, Int.bmod_add_bmod]

end Width

namespace Value

/-- The width and the number of an integer. -/
def integer? : Value → Option (Width × Int)
  | int32 n => some (.single, n.toInt)
  | int64 n => some (.double, n.toInt)
  | _ => none

/-- Whether an operation succeeds with the integer that a number is at a width. -/
def Yields (result : Except RuntimeError Value) (width : Width) (n : Int) : Prop :=
  ∃ value, result = .ok value ∧ value.integer? = some (width, width.reduce n)

variable {a b : Value} {v w : Width} {x y : Int}

/-- An integer is in range at its own width and at the wider one. -/
theorem reduce_of_integer? (here : a.integer? = some (v, x)) (w : Width) : (v.wider w).reduce x = x := by
  unfold integer? at here
  split at here
  · rename_i n
    cases here
    cases w with
    | single => exact n.toInt_bmod
    | double =>
      rw [← Int32.toInt_toInt64]
      exact n.toInt64.toInt_bmod
  · rename_i n
    cases here
    exact n.toInt_bmod
  · cases here

/-- An integer divides unless it is zero. -/
theorem isIntegerZero_iff (here : b.integer? = some (w, y)) : b.isIntegerZero = true ↔ y = 0 := by
  unfold integer? at here
  split at here
  · cases here
    simp [isIntegerZero, ← Int32.toInt_inj]
  · cases here
    simp [isIntegerZero, ← Int64.toInt_inj]
  · cases here

end Value

namespace Value.Arithmetic

/-- An operation that is exact on integers but for the width of its result. -/
structure Computes (operation : Arithmetic) (exact : Int → Int → Int) : Prop where
  single : ∀ x y, (operation.int32 x y).toInt = Width.single.reduce (exact x.toInt y.toInt)
  double : ∀ x y, (operation.int64 x y).toInt = Width.double.reduce (exact x.toInt y.toInt)

variable {operation : Arithmetic} {exact : Int → Int → Int} {a b : Value} {v w : Width} {x y : Int}

/-- Operands are brought to the wider width before the operation, and none of the four cases fails. -/
theorem Computes.yields (h : operation.Computes exact) (first : a.integer? = some (v, x))
    (second : b.integer? = some (w, y)) :
    Yields (operation.apply a b) (v.wider w) (exact x y) := by
  unfold integer? at first second
  split at first
  · cases first
    split at second
    · cases second
      exact ⟨_, rfl, by rw [integer?, h.single]; rfl⟩
    · cases second
      exact ⟨_, rfl, by rw [integer?, h.double, Int32.toInt_toInt64]; rfl⟩
    · cases second
  · cases first
    split at second
    · cases second
      exact ⟨_, rfl, by rw [integer?, h.double, Int32.toInt_toInt64]; rfl⟩
    · cases second
      exact ⟨_, rfl, by rw [integer?, h.double]; rfl⟩
    · cases second
  · cases first

end Value.Arithmetic

namespace Value

variable {a b : Value} {v w : Width} {x y : Int}

/-- A sum of integers has the wider type and the sum modulo its width. -/
theorem add_yields (first : a.integer? = some (v, x)) (second : b.integer? = some (w, y)) :
    Yields (a.add b) (v.wider w) (x + y) := by
  have sums : (⟨"add", (· + ·), (· + ·), Double.add⟩ : Arithmetic).Computes (· + ·) :=
    ⟨Int32.toInt_add, Int64.toInt_add⟩
  unfold add
  split
  · cases first
  · cases second
  · exact sums.yields first second

theorem sub_yields (first : a.integer? = some (v, x)) (second : b.integer? = some (w, y)) :
    Yields (a.sub b) (v.wider w) (x - y) :=
  Arithmetic.Computes.yields ⟨Int32.toInt_sub, Int64.toInt_sub⟩ first second

theorem mul_yields (first : a.integer? = some (v, x)) (second : b.integer? = some (w, y)) :
    Yields (a.mul b) (v.wider w) (x * y) :=
  Arithmetic.Computes.yields ⟨Int32.toInt_mul, Int64.toInt_mul⟩ first second

theorem div_yields (first : a.integer? = some (v, x)) (second : b.integer? = some (w, y)) (divides : y ≠ 0) :
    Yields (a.div b) (v.wider w) (x.tdiv y) := by
  rw [div, if_neg (mt (isIntegerZero_iff second).1 divides)]
  exact Arithmetic.Computes.yields ⟨Int32.toInt_div, Int64.toInt_div⟩ first second

theorem rem_yields (first : a.integer? = some (v, x)) (second : b.integer? = some (w, y)) (divides : y ≠ 0) :
    Yields (a.rem b) (v.wider w) (x.tmod y) := by
  rw [rem, if_neg (mt (isIntegerZero_iff second).1 divides)]
  -- the remainder is exact, so that reducing it changes nothing
  refine Arithmetic.Computes.yields ⟨fun x y => ?_, fun x y => ?_⟩ first second
  · exact (x % y).toInt_bmod.symm.trans (congrArg (Int.bmod · _) (Int32.toInt_mod x y))
  · exact (x % y).toInt_bmod.symm.trans (congrArg (Int.bmod · _) (Int64.toInt_mod x y))

theorem Yields.not_divideByZero {result : Except RuntimeError Value} (yields : Yields result w x) :
    result ≠ .error .divideByZero := by
  obtain ⟨value, rfl, _⟩ := yields
  exact fun failed => by cases failed

theorem div_eq_divideByZero_iff (first : a.integer? = some (v, x)) (second : b.integer? = some (w, y)) :
    a.div b = .error .divideByZero ↔ y = 0 := by
  constructor
  · intro failed
    exact Decidable.byContradiction fun divides => (div_yields first second divides).not_divideByZero failed
  · intro zero
    rw [div, if_pos ((isIntegerZero_iff second).2 zero)]

theorem rem_eq_divideByZero_iff (first : a.integer? = some (v, x)) (second : b.integer? = some (w, y)) :
    a.rem b = .error .divideByZero ↔ y = 0 := by
  constructor
  · intro failed
    exact Decidable.byContradiction fun divides => (rem_yields first second divides).not_divideByZero failed
  · intro zero
    rw [rem, if_pos ((isIntegerZero_iff second).2 zero)]

/-- Integer arithmetic is exact but for the width of the result, which is the wider one of the operands'. Only
zero does not divide, and what a quotient leaves out is in the remainder, also where the quotient is out of
range. -/
theorem integer_arithmetic (first : a.integer? = some (v, x)) (second : b.integer? = some (w, y)) :
    Yields (a.add b) (v.wider w) (x + y) ∧ Yields (a.sub b) (v.wider w) (x - y) ∧ Yields (a.mul b)
      (v.wider w) (x * y) ∧
    (a.div b = .error .divideByZero ↔ y = 0) ∧ (a.rem b = .error .divideByZero ↔ y = 0) ∧
    (y ≠ 0 → Yields (a.div b) (v.wider w) (x.tdiv y) ∧ Yields (a.rem b) (v.wider w) (x.tmod y) ∧
      ∃ sum, (do (← (← a.div b).mul b).add (← a.rem b)) = .ok sum ∧ sum.integer? = some (v.wider w, x)) := by
  refine ⟨add_yields first second, sub_yields first second, mul_yields first second,
    div_eq_divideByZero_iff first second, rem_eq_divideByZero_iff first second, ?_⟩
  intro divides
  have quotients := div_yields first second divides
  have remainders := rem_yields first second divides
  refine ⟨quotients, remainders, ?_⟩
  obtain ⟨quotient, divided, quotientIs⟩ := quotients
  obtain ⟨remainder, left, remainderIs⟩ := remainders
  obtain ⟨product, multiplied, productIs⟩ := mul_yields quotientIs second
  rw [Width.wider_wider] at productIs
  obtain ⟨sum, added, sumIs⟩ := add_yields productIs remainderIs
  refine ⟨sum, ?_, ?_⟩
  · rw [divided, left]
    simp only [bind, Except.bind, multiplied, added]
  · rw [sumIs, Width.wider_self, Width.reduce_mul_add, Int.tdiv_mul_add_tmod, reduce_of_integer? first]

/-- The one quotient that is out of range is reduced to the dividend and leaves nothing, at the dividend's width. -/
theorem integer_arithmetic_least :
    (∃ quotient, (int64 (-9223372036854775808)).div (int32 (-1)) = .ok quotient ∧
      quotient.integer? = some (.double, -9223372036854775808)) ∧
    (∃ remainder, (int64 (-9223372036854775808)).rem (int32 (-1)) = .ok remainder ∧
      remainder.integer? = some (.double, 0)) := by
  have first : (int64 (-9223372036854775808)).integer? = some (.double, -9223372036854775808) := by decide
  have second : (int32 (-1)).integer? = some (.single, -1) := by decide
  obtain ⟨_, _, _, _, _, divides⟩ := integer_arithmetic first second
  obtain ⟨quotients, remainders, _⟩ := divides (by decide)
  exact ⟨quotients, remainders⟩

end Value

end Faultline
