namespace Faultline

/-- A binary64 floating-point number, given by its bits: two numbers are the same exactly when their bits
are, while `Double.eq` is the arithmetic comparison. -/
structure Double where
  bits : UInt64
deriving DecidableEq, Inhabited

namespace Double

def ofFloat (x : Float) : Double := ⟨x.toBits⟩

def toFloat (x : Double) : Float := Float.ofBits x.bits

def zero : Double := ⟨0⟩

def nan : Double := ⟨0x7ff8000000000000⟩

def isNegative (x : Double) : Bool := x.bits >>> 63 = 1

/-- The eleven bits of the biased exponent. -/
def exponentField (x : Double) : Nat := (x.bits >>> 52).toNat % 2048

/-- The weight of the bit above the fifty-two of the fraction. -/
abbrev leadingBit : Nat := 0x10000000000000

/-- The fifty-two bits of the fraction. -/
def fractionField (x : Double) : Nat := x.bits.toNat % leadingBit

def isNaN (x : Double) : Bool := x.exponentField = 2047 && x.fractionField != 0

def isInfinite (x : Double) : Bool := x.exponentField = 2047 && x.fractionField = 0

def isZero (x : Double) : Bool := x.exponentField = 0 && x.fractionField = 0

/-- The integer significand of a finite number, whose magnitude is `significand * 2 ^ (scale - 1074)`. -/
def significand (x : Double) : Nat :=
  if x.exponentField = 0 then x.fractionField else x.fractionField + leadingBit

/-- The exponent of a finite number, counted from the least one. -/
def scale (x : Double) : Nat := x.exponentField - 1

def add (x y : Double) : Double := ofFloat (x.toFloat + y.toFloat)

def sub (x y : Double) : Double := ofFloat (x.toFloat - y.toFloat)

def mul (x y : Double) : Double := ofFloat (x.toFloat * y.toFloat)

def div (x y : Double) : Double := ofFloat (x.toFloat / y.toFloat)

/-- The number with its sign bit flipped, a NaN included. -/
def neg (x : Double) : Double := ⟨x.bits ^^^ 0x8000000000000000⟩

/-- The number `(-1) ^ negative * significand * 2 ^ (scale - 1074)`, for a magnitude that has a binary64
form with this significand, brought to that form by doubling until the leading bit stands in its place. -/
def ofParts (negative : Bool) (significand scale : Nat) : Double :=
  let shift := min scale (52 - significand.log2)
  let normal := significand <<< shift
  let field := if normal < leadingBit then normal else normal + (scale - shift) * leadingBit
  ⟨UInt64.ofNat (field + if negative then 0x8000000000000000 else 0)⟩

/-- The remainder of the truncated quotient, computed exactly: it has the sign of `x` and is smaller in
magnitude than `y`. -/
def rem (x y : Double) : Double :=
  if x.isNaN || y.isNaN || x.isInfinite || y.isZero then nan
  else if y.isInfinite then x
  else
    let low := min x.scale y.scale
    let left := x.significand <<< (x.scale - low)
    let right := y.significand <<< (y.scale - low)
    ofParts x.isNegative (left % right) low

/-- Arithmetic equality: a NaN equals nothing and the two zeros are equal. -/
def eq (x y : Double) : Bool := x.toFloat == y.toFloat

def lt (x y : Double) : Bool := x.toFloat < y.toFloat

/-- Every 32-bit integer has a binary64 form. -/
def ofInt32 (n : Int32) : Double := ofParts (n.toInt < 0) n.toInt.natAbs 1074

def ofInt64 (n : Int64) : Double := ofFloat n.toFloat

end Double

end Faultline
