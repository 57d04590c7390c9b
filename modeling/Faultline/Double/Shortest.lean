import Faultline.Double.Basic

namespace Faultline

namespace Double

/-- A decimal magnitude `digits * 10 ^ exponent`. -/
structure Decimal where
  digits : Nat
  exponent : Int
deriving DecidableEq

/-- The reals that round to one positive binary64 number, as a fraction of integers: they lie between
`low / unit` and `high / unit`, with the number itself at `value / unit`. -/
structure Rounding where
  low : Nat
  value : Nat
  high : Nat
  unit : Nat
  closed : Bool

/-- The interval reaches half way to both neighbours; below a power of two the lower neighbour is nearer.
Its ends belong to it when the significand is even. -/
def rounding (x : Double) : Rounding :=
  let m := x.significand
  let below := if m = leadingBit && 0 < x.scale then 1 else 2
  { low := (4 * m - below) <<< x.scale
    value := (4 * m) <<< x.scale
    high := (4 * m + 2) <<< x.scale
    unit := 1 <<< 1076
    closed := m % 2 = 0 }

/-- Whether `num / den` rounds to the number. -/
def Rounding.holds (r : Rounding) (num den : Nat) : Bool :=
  let point := num * r.unit
  if r.closed then r.low * den ≤ point && point ≤ r.high * den else r.low * den < point && point < r.high * den

/-- The number's point on the grid of multiples of `10 ^ exponent` that rounds to it, if there is one: of
the two neighbours on the grid the nearer, and of two equally near the one with an even last digit. -/
def Rounding.onGrid (r : Rounding) (exponent : Int) : Option Decimal :=
  let up := Nat.pow 10 exponent.toNat
  let down := Nat.pow 10 (-exponent).toNat
  let floor := r.value * down / (r.unit * up)
  let low := r.holds (floor * up) down
  let high := r.holds ((floor + 1) * up) down
  let twice := 2 * r.value * down
  let middle := (2 * floor + 1) * r.unit * up
  let upper : Bool := middle < twice || middle = twice && floor % 2 = 1
  if low && high then some ⟨if upper then floor + 1 else floor, exponent⟩
  else if low then some ⟨floor, exponent⟩
  else if high then some ⟨floor + 1, exponent⟩
  else none

/-- The least `k` at or above `start`, within `fuel` steps, with `value / unit < 10 ^ k`. -/
def Rounding.magnitude (r : Rounding) : Nat → Int → Int
  | 0, k => k
  | fuel + 1, k =>
    if r.value * Nat.pow 10 (-k).toNat < r.unit * Nat.pow 10 k.toNat then k else r.magnitude fuel (k + 1)

/-- The first of the grids `exponent`, `exponent - 1`, … with a point that rounds to the number. -/
def Rounding.firstGrid (r : Rounding) : Nat → Int → Decimal
  | 0, exponent => (r.onGrid exponent).getD ⟨0, 0⟩
  | fuel + 1, exponent => (r.onGrid exponent).getD (r.firstGrid fuel (exponent - 1))

/-- The magnitude of a finite positive number in the fewest decimal digits that read back as it. -/
def shortest (x : Double) : Decimal :=
  let r := x.rounding
  let binary : Int := (x.significand.log2 : Int) + (x.scale : Int) - 1074
  let k := r.magnitude 3 (binary * 301 / 1000 - 1)
  r.firstGrid 17 (k - 1)

/-- The digits without trailing zeros, and how many were dropped. -/
def dropZeros : Nat → Nat → Nat × Nat
  | 0, n => (n, 0)
  | fuel + 1, n => if n % 10 = 0 && n != 0 then let (m, k) := dropZeros fuel (n / 10); (m, k + 1) else (n, 0)

def zeros (n : Nat) : String := String.ofList (List.replicate n '0')

/-- Positional below `10 ^ 16` and from `10 ^ -4` on, with at least one decimal; scientific elsewhere. -/
def Decimal.text (d : Decimal) : String :=
  let (digits, dropped) := dropZeros 20 d.digits
  let exponent := d.exponent + dropped
  let shown := digits.repr
  let count := shown.length
  let leading : Int := exponent + count - 1
  if -4 ≤ leading && leading < 16 then
    if 0 ≤ exponent then shown ++ zeros exponent.toNat ++ ".0"
    else
      let places := (-exponent).toNat
      if places < count then
        String.ofList (shown.toList.take (count - places)) ++ "." ++
          String.ofList (shown.toList.drop (count - places))
      else "0." ++ zeros (places - count) ++ shown
  else
    let fraction := String.ofList (shown.toList.drop 1)
    String.ofList (shown.toList.take 1) ++ (if fraction.isEmpty then "" else "." ++ fraction) ++ "e" ++
      leading.repr

/-- The shortest text that reads back as the number; a NaN has no sign. -/
def text (x : Double) : String :=
  if x.isNaN then "NaN"
  else
    let sign := if x.isNegative then "-" else ""
    if x.isInfinite then sign ++ "inf"
    else if x.isZero then sign ++ "0.0"
    else sign ++ x.shortest.text

end Double

end Faultline
