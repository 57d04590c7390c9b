namespace Faultline

abbrev Bytes := List UInt8

/-- The `width` low bytes of a number, the least significant first. -/
def littleEndian : Nat → Nat → Bytes
  | 0, _ => []
  | width + 1, n => UInt8.ofNat n :: littleEndian width (n / 256)

/-- The number whose bytes these are, the least significant first. -/
def ofLittleEndian : Bytes → Nat
  | [] => 0
  | byte :: rest => byte.toNat + 256 * ofLittleEndian rest

/-- The first `n` bytes and the rest, if there are as many. -/
def splitExactly : Nat → Bytes → Option (Bytes × Bytes)
  | 0, bytes => some ([], bytes)
  | _ + 1, [] => none
  | n + 1, byte :: rest => (splitExactly n rest).map fun (front, back) => (byte :: front, back)

/-- Two lower-case hexadecimal digits for each byte. -/
def hexText (bytes : Bytes) : String :=
  let digit (n : Nat) : Char := (Nat.toDigits 16 n).headD '0'
  String.ofList (bytes.flatMap fun byte => [digit (byte.toNat / 16), digit (byte.toNat % 16)])

/-- The bytes of a text in UTF-8. -/
def textBytes (s : String) : Bytes := s.toUTF8.data.toList

end Faultline
