import Faultline.Text.Json

namespace Faultline

namespace Json

/-- The characters after leading blanks. -/
def skipBlank (s : List Char) : List Char :=
  s.dropWhile fun c => c = ' ' || c = '\n' || c = '\t' || c = '\r'

def isDigit (c : Char) : Bool := '0' ≤ c && c ≤ '9'

def digitValue (c : Char) : Nat := c.toNat - '0'.toNat

def hexValue? (c : Char) : Option Nat :=
  if isDigit c then some (digitValue c)
  else if 'a' ≤ c && c ≤ 'f' then some (c.toNat - 'a'.toNat + 10)
  else if 'A' ≤ c && c ≤ 'F' then some (c.toNat - 'A'.toNat + 10)
  else none

/-- Four hexadecimal digits. -/
def readUnit : List Char → Option (Nat × List Char)
  | a :: b :: c :: d :: rest => do
    let a ← hexValue? a
    let b ← hexValue? b
    let c ← hexValue? c
    let d ← hexValue? d
    return (((a * 16 + b) * 16 + c) * 16 + d, rest)
  | _ => none

def isHighSurrogate (unit : Nat) : Bool := 0xD800 ≤ unit && unit < 0xDC00

def isLowSurrogate (unit : Nat) : Bool := 0xDC00 ≤ unit && unit < 0xE000

/-- The character after `\u`: a surrogate counts only as half of a pair of such escapes. -/
def readEscapedUnit (s : List Char) : Option (Char × List Char) := do
  let (unit, rest) ← readUnit s
  if isHighSurrogate unit then
    match rest with
    | '\\' :: 'u' :: rest =>
      let (low, rest) ← readUnit rest
      if isLowSurrogate low then return (.ofNat (0x10000 + (unit - 0xD800) * 1024 + (low - 0xDC00)), rest)
      else none
    | _ => none
  else if isLowSurrogate unit then none
  else return (.ofNat unit, rest)

/-- The character after a backslash. -/
def readEscape : List Char → Option (Char × List Char)
  | '"' :: rest => some ('"', rest)
  | '\\' :: rest => some ('\\', rest)
  | '/' :: rest => some ('/', rest)
  | 'b' :: rest => some (.ofNat 8, rest)
  | 'f' :: rest => some (.ofNat 12, rest)
  | 'n' :: rest => some ('\n', rest)
  | 'r' :: rest => some ('\r', rest)
  | 't' :: rest => some ('\t', rest)
  | 'u' :: rest => readEscapedUnit rest
  | _ => none

/-- The rest of a string after its opening quote, with the characters before it in reverse. -/
def readString : Nat → List Char → List Char → Option (String × List Char)
  | 0, _, _ => none
  | fuel + 1, before, s =>
    match s with
    | [] => none
    | '"' :: rest => some (.ofList before.reverse, rest)
    | '\\' :: rest => do
      let (c, rest) ← readEscape rest
      readString fuel (c :: before) rest
    | c :: rest => if c.toNat < 32 then none else readString fuel (c :: before) rest

/-- A run of one or more digits. -/
def readDigits (s : List Char) : Option (List Char × List Char) :=
  match s.span isDigit with
  | ([], _) => none
  | run => some run

def decimalValue (digits : List Char) : Nat := digits.foldl (fun n c => n * 10 + digitValue c) 0

/-- The fraction of a number, empty if there is none. -/
def readFraction (s : List Char) : Option (List Char × List Char) :=
  match s with
  | '.' :: rest => do
    let (digits, rest) ← readDigits rest
    return ('.' :: digits, rest)
  | _ => some ([], s)

def readExponent (s : List Char) : Option (List Char × List Char) :=
  match s with
  | c :: rest =>
    if c = 'e' || c = 'E' then
      match rest with
      | '+' :: rest => (readDigits rest).map fun (digits, rest) => ('e' :: '+' :: digits, rest)
      | '-' :: rest => (readDigits rest).map fun (digits, rest) => ('e' :: '-' :: digits, rest)
      | _ => (readDigits rest).map fun (digits, rest) => ('e' :: digits, rest)
    else some ([], s)
  | [] => some ([], s)

/-- A number, with its sign already read. The first of several digits is not zero, and a negative zero is
no integer. -/
def readNumber (negative : Bool) (s : List Char) : Option (Json × List Char) := do
  let (digits, rest) ← readDigits s
  if digits.head? = some '0' && digits.length != 1 then none
  else
    let (fraction, rest) ← readFraction rest
    let (exponent, rest) ← readExponent rest
    let n := decimalValue digits
    if fraction.isEmpty && exponent.isEmpty && !(negative && n = 0) then
      return (.integer (if negative then -n else n), rest)
    else return (.decimal (.ofList ((if negative then ['-'] else []) ++ digits ++ fraction ++ exponent)), rest)

mutual

/-- A value at the start of the text, and what follows it. Every level of nesting takes characters of its
own, so a text's length bounds its depth. -/
def readValue : Nat → List Char → Option (Json × List Char)
  | 0, _ => none
  | fuel + 1, s =>
    match skipBlank s with
    | '"' :: rest => (readString (rest.length + 1) [] rest).map fun (text, rest) => (.string text, rest)
    | '[' :: rest =>
      match skipBlank rest with
      | ']' :: rest => some (.array [], rest)
      | _ => (readItems fuel rest).map fun (items, rest) => (.array items, rest)
    | '\x7b' :: rest =>
      match skipBlank rest with
      | '\x7d' :: rest => some (.object [], rest)
      | _ => (readMembers fuel rest).map fun (members, rest) => (.object members, rest)
    | 't' :: 'r' :: 'u' :: 'e' :: rest => some (.bool true, rest)
    | 'f' :: 'a' :: 'l' :: 's' :: 'e' :: rest => some (.bool false, rest)
    | 'n' :: 'u' :: 'l' :: 'l' :: rest => some (.null, rest)
    | '-' :: rest => readNumber true rest
    | s => readNumber false s

/-- One or more items up to the closing bracket. -/
def readItems : Nat → List Char → Option (List Json × List Char)
  | 0, _ => none
  | fuel + 1, s => do
    let (item, rest) ← readValue fuel s
    match skipBlank rest with
    | ',' :: rest =>
      let (items, rest) ← readItems fuel rest
      return (item :: items, rest)
    | ']' :: rest => return ([item], rest)
    | _ => none

/-- One or more members up to the closing brace. -/
def readMembers : Nat → List Char → Option (List (String × Json) × List Char)
  | 0, _ => none
  | fuel + 1, s => do
    match skipBlank s with
    | '"' :: rest =>
      let (name, rest) ← readString (rest.length + 1) [] rest
      match skipBlank rest with
      | ':' :: rest =>
        let (value, rest) ← readValue fuel rest
        match skipBlank rest with
        | ',' :: rest =>
          let (members, rest) ← readMembers fuel rest
          return ((name, value) :: members, rest)
        | '\x7d' :: rest => return ([(name, value)], rest)
        | _ => none
      | _ => none
    | _ => none

end

/-- The value that a whole text is, blanks around it aside. -/
def parse? (text : String) : Option Json := do
  let s := text.toList
  let (json, rest) ← readValue (2 * s.length + 1) s
  if (skipBlank rest).isEmpty then return json else none

end Json

end Faultline
