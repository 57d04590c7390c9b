import Faultline.Text.Printable

namespace Faultline

/-- The code point in lower-case hexadecimal, without leading zeros. -/
def hexDigits (n : Nat) : String := String.ofList (Nat.toDigits 16 n)

/-- One character inside a literal closed by `quote`: the quote and the backslash are escaped, common
controls have their letter, and a character that does not show is written by its code point. -/
def escapeChar (quote c : Char) : String :=
  if c = quote || c = '\\' then String.ofList ['\\', c]
  else if c = '\n' then "\\n"
  else if c = '\r' then "\\r"
  else if c = '\t' then "\\t"
  else if c.toNat = 0 then "\\0"
  else if isPrintable c then c.toString
  else "\\u\x7b" ++ hexDigits c.toNat ++ "\x7d"

/-- A string literal. -/
def quoteString (s : String) : String :=
  "\"" ++ String.join (s.toList.map (escapeChar '"')) ++ "\""

/-- A character literal. -/
def quoteChar (c : Char) : String := "'" ++ escapeChar '\'' c ++ "'"

end Faultline
