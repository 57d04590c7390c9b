import Faultline.Text.Pattern.Basic

namespace Faultline

namespace Pattern

/-- The modes that flags such as `(?i)` switch. -/
structure Flags where
  anyCase : Bool := false
  multiLine : Bool := false
  dotAll : Bool := false
  spaced : Bool := false
  carriage : Bool := false

/-- Adds the case variants of a set's members where case does not count. -/
def Flags.fold (flags : Flags) (set : CharSet) : CharSet := if flags.anyCase then .anyCase set else set

/-- Skips blanks and comments, which reach to the end of their line. -/
def skipBlank (comment : Bool) : List Char → List Char
  | [] => []
  | c :: rest =>
    if comment then skipBlank (c != '\n') rest
    else if isBlank c then skipBlank false rest
    else if c = '#' then skipBlank true rest
    else c :: rest

/-- What comes next where blanks and comments may stand between the parts of a pattern. -/
def Flags.skip (flags : Flags) (s : List Char) : List Char := if flags.spaced then skipBlank false s else s

def hexDigit? (c : Char) : Option Nat :=
  if '0' ≤ c && c ≤ '9' then some (c.toNat - 48)
  else if 'a' ≤ c && c ≤ 'f' then some (c.toNat - 87)
  else if 'A' ≤ c && c ≤ 'F' then some (c.toNat - 55)
  else none

def charOfHex? (digits : List Char) : Option Char := do
  let values ← digits.mapM hexDigit?
  let code := values.foldl (fun n digit => n * 16 + digit) 0
  if !values.isEmpty && code.isValidChar then return .ofNat code else none

/-- A code point as exactly `width` hexadecimal digits, or as any number of them in braces. -/
def readCode (width : Nat) : List Char → Option (Char × List Char)
  | '\x7b' :: rest =>
    match rest.span (· != '\x7d') with
    | (digits, _ :: rest) => (charOfHex? digits).map (·, rest)
    | _ => none
  | rest =>
    if rest.length < width then none else (charOfHex? (rest.take width)).map (·, rest.drop width)

/-- A property's name without the differences that do not count: case, blanks, hyphens, underscores and a
leading `is`. -/
def plainName (name : List Char) : String :=
  let name := name.map Char.toLower
  let name := if name.take 2 = ['i', 's'] then name.drop 2 else name
  .ofList (name.filter fun c => c != ' ' && c != '_' && c != '-' && c.toNat < 128)

/-- The characters that have a general category, or are in one of the classes that count as such. -/
def categorySet? (name : String) : Option CharSet :=
  if name = "any" then some (.inverse .none)
  else if name = "assigned" then some (.inverse (.category ["Cn"]))
  else if name = "ascii" then some (.range (.ofNat 0) (.ofNat 127))
  else (categoriesNamed? name).map .category

/-- The characters with a property. Of all properties, the general category and white space are known. -/
def propertySet? (query : List Char) : Option CharSet :=
  match query.span fun c => c != '=' && c != ':' with
  | (name, []) =>
    let name := plainName name
    if ["whitespace", "wspace", "space"].contains name then some .blank else categorySet? name
  | (name, _ :: value) =>
    let differs := name.getLast? = some '!'
    if ["gc", "generalcategory"].contains (plainName (if differs then name.dropLast else name)) then
      (categorySet? (plainName value)).map fun set => if differs then .inverse set else set
    else none

/-- A property after `\p`: a single letter, or a name in braces. -/
def readProperty : List Char → Option (CharSet × List Char)
  | '\x7b' :: rest =>
    match rest.span (· != '\x7d') with
    | (query, _ :: rest) => (propertySet? query).map (·, rest)
    | _ => none
  | c :: rest => (propertySet? [c]).map (·, rest)
  | [] => none

/-- The kind of a word's edge named in braces after `\b`. -/
def namedEdge? : String → Option Anchor
  | "start" => some .wordStart
  | "end" => some .wordEnd
  | "start-half" => some .noWordBefore
  | "end-half" => some .noWordAfter
  | _ => none

/-- The edge of a word after `\b`. Braces that hold anything but letters are no name but count repetitions. -/
def readEdge (flags : Flags) (s : List Char) : Option (Anchor × List Char) :=
  let isNameChar (c : Char) : Bool := c.isAlpha || c = '-'
  match s with
  | '\x7b' :: rest =>
    match (flags.skip rest).span isNameChar with
    | ([], _) => some (.wordEdge, s)
    | (name, '\x7d' :: rest) => (namedEdge? (.ofList name)).map (·, rest)
    | _ => none
  | _ => some (.wordEdge, s)

/-- What a backslash and the characters after it stand for. -/
inductive Escape where
  | char (c : Char)
  | set (set : CharSet)
  | place (place : Anchor)

def readEscape (flags : Flags) : List Char → Option (Escape × List Char)
  | 'd' :: rest => some (.set .digit, rest)
  | 'D' :: rest => some (.set (.inverse .digit), rest)
  | 's' :: rest => some (.set .blank, rest)
  | 'S' :: rest => some (.set (.inverse .blank), rest)
  | 'w' :: rest => some (.set .word, rest)
  | 'W' :: rest => some (.set (.inverse .word), rest)
  | 'p' :: rest => (readProperty rest).map fun (set, rest) => (.set (flags.fold set), rest)
  | 'P' :: rest => (readProperty rest).map fun (set, rest) => (.set (.inverse (flags.fold set)), rest)
  | 'b' :: rest => (readEdge flags rest).map fun (place, rest) => (.place place, rest)
  | 'B' :: rest => some (.place .noWordEdge, rest)
  | '<' :: rest => some (.place .wordStart, rest)
  | '>' :: rest => some (.place .wordEnd, rest)
  | 'A' :: rest => some (.place .textStart, rest)
  | 'z' :: rest => some (.place .textEnd, rest)
  | 'a' :: rest => some (.char (.ofNat 7), rest)
  | 'f' :: rest => some (.char (.ofNat 12), rest)
  | 't' :: rest => some (.char '\t', rest)
  | 'n' :: rest => some (.char '\n', rest)
  | 'r' :: rest => some (.char '\r', rest)
  | 'v' :: rest => some (.char (.ofNat 11), rest)
  | 'x' :: rest => (readCode 2 rest).map fun (c, rest) => (.char c, rest)
  | 'u' :: rest => (readCode 4 rest).map fun (c, rest) => (.char c, rest)
  | 'U' :: rest => (readCode 8 rest).map fun (c, rest) => (.char c, rest)
  | c :: rest => if c.toNat < 128 && !c.isAlphanum then some (.char c, rest) else none
  | [] => none

end Pattern

end Faultline
