import Faultline.Machine.Error

namespace Faultline

namespace Value

/-- An operation on numbers at each of the three widths. -/
structure Arithmetic where
  name : String
  int32 : Int32 → Int32 → Int32
  int64 : Int64 → Int64 → Int64
  float64 : Double → Double → Double

/-- Applies an operation at the wider type of its operands, a float being wider than any integer. -/
def Arithmetic.apply (operation : Arithmetic) (a b : Value) : Except RuntimeError Value :=
  match a, b with
  | .int32 x, .int32 y => .ok (.int32 (operation.int32 x y))
  | .int64 x, .int64 y => .ok (.int64 (operation.int64 x y))
  | .int32 x, .int64 y => .ok (.int64 (operation.int64 x.toInt64 y))
  | .int64 x, .int32 y => .ok (.int64 (operation.int64 x y.toInt64))
  | .float64 x, .float64 y => .ok (.float64 (operation.float64 x y))
  | .float64 x, .int32 y => .ok (.float64 (operation.float64 x (.ofInt32 y)))
  | .int32 x, .float64 y => .ok (.float64 (operation.float64 (.ofInt32 x) y))
  | .float64 x, .int64 y => .ok (.float64 (operation.float64 x (.ofInt64 y)))
  | .int64 x, .float64 y => .ok (.float64 (operation.float64 (.ofInt64 x) y))
  | a, b => .error (.typeMismatch operation.name s!"{a.describe} and {b.describe}")

/-- The text that concatenation takes from an operand. -/
def plainText : Value → String
  | string s => s
  | char c => c.toString
  | int64 n => n.toInt.repr
  | value => value.text

/-- Concatenation where an operand is a string, else the sum. -/
def add (a b : Value) : Except RuntimeError Value :=
  match a, b with
  | string x, b => .ok (string (x ++ b.plainText))
  | a, string y => .ok (string (a.plainText ++ y))
  | a, b => Arithmetic.apply ⟨"add", (· + ·), (· + ·), Double.add⟩ a b

def sub (a b : Value) : Except RuntimeError Value :=
  Arithmetic.apply ⟨"sub", (· - ·), (· - ·), Double.sub⟩ a b

def mul (a b : Value) : Except RuntimeError Value :=
  Arithmetic.apply ⟨"mul", (· * ·), (· * ·), Double.mul⟩ a b

/-- Whether the value is an integer zero, by which nothing is divided, whatever the dividend. -/
def isIntegerZero : Value → Bool
  | int32 n => n = 0
  | int64 n => n = 0
  | _ => false

def div (a b : Value) : Except RuntimeError Value :=
  if b.isIntegerZero then .error .divideByZero
  else Arithmetic.apply ⟨"div", (· / ·), (· / ·), Double.div⟩ a b

def rem (a b : Value) : Except RuntimeError Value :=
  if b.isIntegerZero then .error .divideByZero
  else Arithmetic.apply ⟨"rem", (· % ·), (· % ·), Double.rem⟩ a b

def neg : Value → Except RuntimeError Value
  | int32 n => .ok (int32 (-n))
  | int64 n => .ok (int64 (-n))
  | float64 x => .ok (float64 x.neg)
  | value => .error (.typeMismatch "neg" value.describe)

/-- The equality test of programs: integers of either width compare by number, and so do floats and
32-bit integers. -/
def isEqual (a b : Value) : Bool :=
  match a, b with
  | int32 x, int64 y => x.toInt64 = y
  | int64 x, int32 y => x = y.toInt64
  | float64 x, int32 y => x.eq (.ofInt32 y)
  | int32 x, float64 y => (Double.ofInt32 x).eq y
  | a, b => a.equals b

/-- How two floats are ordered; a NaN is in no order with anything. -/
def compareDoubles (x y : Double) : Option Ordering :=
  if x.lt y then some .lt else if y.lt x then some .gt else if x.eq y then some .eq else none

/-- The order of two values, where their types have one. -/
def order (a b : Value) : Except RuntimeError (Option Ordering) :=
  match a, b with
  | int32 x, int32 y => .ok (some (compare x.toInt y.toInt))
  | int64 x, int64 y => .ok (some (compare x.toInt y.toInt))
  | int32 x, int64 y => .ok (some (compare x.toInt y.toInt))
  | int64 x, int32 y => .ok (some (compare x.toInt y.toInt))
  | float64 x, float64 y => .ok (compareDoubles x y)
  | float64 x, int32 y => .ok (compareDoubles x (.ofInt32 y))
  | int32 x, float64 y => .ok (compareDoubles (.ofInt32 x) y)
  | char x, char y => .ok (some (compare x y))
  | string x, string y => .ok (some (compare x y))
  | a, b => .error (.typeMismatch "compare" s!"{a.describe} and {b.describe}")

def isLess (a b : Value) : Except RuntimeError Value :=
  (a.order b).map fun o => bool (o = some .lt)

def isGreater (a b : Value) : Except RuntimeError Value :=
  (a.order b).map fun o => bool (o = some .gt)

end Value

end Faultline
