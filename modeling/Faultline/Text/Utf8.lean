import Faultline.Bytes

namespace Faultline

/-- Where bytes stop being UTF-8: `index` bytes are sound, then either `length` bytes are the longest
start of a character that goes wrong, or the bytes end within a character. -/
inductive Utf8Error where
  | invalid (index length : Nat)
  | incomplete (index : Nat)
deriving DecidableEq, Repr

def Utf8Error.message : Utf8Error → String
  | invalid index length => s!"invalid utf-8 sequence of {length} bytes from index {index}"
  | incomplete index => s!"incomplete utf-8 byte sequence from index {index}"

/-- For the first byte of a character: how many bytes follow, and the range of the first of them. Every
later one lies between 0x80 and 0xBF. -/
def leadByte (byte : UInt8) : Option (Nat × UInt8 × UInt8) :=
  if byte < 0x80 then some (0, 0x80, 0xBF)
  else if byte < 0xC2 then none
  else if byte < 0xE0 then some (1, 0x80, 0xBF)
  else if byte = 0xE0 then some (2, 0xA0, 0xBF)
  else if byte = 0xED then some (2, 0x80, 0x9F)
  else if byte < 0xF0 then some (2, 0x80, 0xBF)
  else if byte = 0xF0 then some (3, 0x90, 0xBF)
  else if byte < 0xF4 then some (3, 0x80, 0xBF)
  else if byte = 0xF4 then some (3, 0x80, 0x8F)
  else none

/-- The fault of bytes that are not UTF-8. `start` is where the current character starts and `seen` how
many of its bytes have been read; `due` more follow, the next between `low` and `high`. -/
def utf8Fault (start seen due : Nat) (low high : UInt8) : Bytes → Utf8Error
  | [] => .incomplete start
  | byte :: rest =>
    match due with
    | 0 =>
      match leadByte byte with
      | none => .invalid (start + seen) 1
      | some (follow, low, high) => utf8Fault (start + seen) 1 follow low high rest
    | due + 1 =>
      if low ≤ byte && byte ≤ high then utf8Fault start (seen + 1) due 0x80 0xBF rest
      else .invalid start seen

/-- The text whose UTF-8 bytes these are. -/
def decodeUtf8 (bytes : Bytes) : Except Utf8Error String :=
  match String.fromUTF8? ⟨bytes.toArray⟩ with
  | some text => .ok text
  | none => .error (utf8Fault 0 0 0 0x80 0xBF bytes)

end Faultline
