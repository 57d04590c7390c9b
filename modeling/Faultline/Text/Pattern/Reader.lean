import Faultline.Text.Pattern.Bracket

namespace Faultline

namespace Pattern

/-- The characters that end a line. -/
def Flags.lineBreak (flags : Flags) : CharSet :=
  if flags.carriage then .union (.single '\n') (.single '\r') else .single '\n'

def literal (flags : Flags) (c : Char) : Pattern := .one (flags.fold (.single c))

/-- A decimal number with blanks around it. -/
def readCount (s : List Char) : Option (Nat × List Char) :=
  let s := s.dropWhile isBlank
  match s.span fun c => '0' ≤ c && c ≤ '9' with
  | ([], _) => none
  | (digits, rest) =>
    let n := digits.foldl (fun n c => n * 10 + (c.toNat - 48)) 0
    if n ≤ 0xFFFFFFFF then some (n, rest.dropWhile isBlank) else none

/-- The bounds in a counted repetition, after its opening brace. -/
def readBounds (s : List Char) : Option ((Nat × Option Nat) × List Char) := do
  let (least, rest) ← readCount s
  match rest with
  | '\x7d' :: rest => return ((least, some least), rest)
  | ',' :: rest =>
    match rest.dropWhile isBlank with
    | '\x7d' :: rest => return ((least, none), rest)
    | rest =>
      let (most, rest) ← readCount rest
      match rest with
      | '\x7d' :: rest => if least ≤ most then return ((least, some most), rest) else none
      | _ => none
  | _ => none

/-- A question mark that makes a repetition lazy, which does not change what matches. -/
def dropLazy : List Char → List Char
  | '?' :: rest => rest
  | s => s

/-- The letters of a group of flags, up to the character that ends them. Each stands once, and one hyphen may
stand before those that are switched off. -/
def readFlags (seen : List Char) (flags : Flags) : List Char → Option (Flags × List Char)
  | [] => none
  | c :: rest =>
    let on := '-' ∉ seen
    if c = ')' || c = ':' then if seen.head? = some '-' then none else some (flags, c :: rest)
    else if c ∈ seen then none
    else
      match c with
      | 'i' => readFlags (c :: seen) { flags with anyCase := on } rest
      | 'm' => readFlags (c :: seen) { flags with multiLine := on } rest
      | 's' => readFlags (c :: seen) { flags with dotAll := on } rest
      | 'x' => readFlags (c :: seen) { flags with spaced := on } rest
      | 'R' => readFlags (c :: seen) { flags with carriage := on } rest
      | '-' | 'U' | 'u' => readFlags (c :: seen) flags rest
      | _ => none

/-- Whether a group may have the name. -/
def isGroupName : List Char → Bool
  | [] => false
  | c :: rest =>
    let letter (c : Char) : Bool := c = '_' || (isWordChar c && !isDecimalDigit c)
    letter c && rest.all fun c => letter c || isDecimalDigit c || c = '.' || c = '[' || c = ']'

/-- The kinds of groups, after the opening parenthesis. -/
inductive GroupStart where
  | group (flags : Flags)
  | named (name : List Char)
  | switch (flags : Flags)

def readNamed (s : List Char) : Option (GroupStart × List Char) :=
  match s.span (· != '>') with
  | (name, _ :: rest) => if isGroupName name then some (.named name, rest) else none
  | _ => none

def readGroupStart (flags : Flags) : List Char → Option (GroupStart × List Char)
  | '?' :: 'P' :: '<' :: rest => readNamed rest
  | '?' :: '<' :: rest => readNamed rest
  | '?' :: ')' :: _ => none
  | '?' :: rest =>
    match readFlags [] flags rest with
    | some (flags, ')' :: rest) => some (.switch flags, rest)
    | some (flags, _ :: rest) => some (.group flags, rest)
    | _ => none
  | rest => some (.group flags, rest)

/-- What has been read of a group: the alternatives that are complete, the parts of the one in progress,
the last first, and the names given to groups so far. A switch of flags is a part that cannot be
repeated. -/
structure Partial where
  flags : Flags
  branches : List Pattern
  parts : List (Option Pattern)
  names : List (List Char)

namespace Partial

def branch (p : Partial) : Pattern := p.parts.foldl (fun later part => .seq (part.getD .empty) later) .empty

def close (p : Partial) : Pattern := p.branches.foldl (fun later branch => .alt branch later) p.branch

def push (p : Partial) (part : Pattern) : Partial := { p with parts := some part :: p.parts }

/-- Repeats the last part, if there is one. -/
def quantify (p : Partial) (least : Nat) (most : Option Nat) : Option Partial :=
  match p.parts with
  | some part :: rest => some { p with parts := some (.times part least most) :: rest }
  | _ => none

end Partial

/-- Reads a group up to its closing parenthesis, which stays, or to the end. -/
def readGroup : Nat → Partial → List Char → Option (Partial × List Char)
  | 0, _, _ => none
  | fuel + 1, p, s =>
    match p.flags.skip s with
    | [] => some (p, [])
    | ')' :: rest => some (p, ')' :: rest)
    | '|' :: rest => readGroup fuel { p with branches := p.branch :: p.branches, parts := [] } rest
    | '*' :: rest => (p.quantify 0 none).bind fun p => readGroup fuel p (dropLazy rest)
    | '+' :: rest => (p.quantify 1 none).bind fun p => readGroup fuel p (dropLazy rest)
    | '?' :: rest => (p.quantify 0 (some 1)).bind fun p => readGroup fuel p (dropLazy rest)
    | '\x7b' :: rest => do
      let ((least, most), rest) ← readBounds rest
      let p ← p.quantify least most
      readGroup fuel p (dropLazy rest)
    | '(' :: rest => do
      let (start, rest) ← readGroupStart p.flags (p.flags.skip rest)
      match start with
      | .switch flags => readGroup fuel { p with flags, parts := none :: p.parts } rest
      | .group flags => readInner fuel p flags p.names rest
      | .named name => if name ∈ p.names then none else readInner fuel p p.flags (name :: p.names) rest
    | '[' :: rest => do
      let (set, rest) ← readSetItems.openSet p.flags rest.length rest
      readGroup fuel (p.push (.one set)) rest
    | '.' :: rest =>
      readGroup fuel (p.push (.one (.inverse (if p.flags.dotAll then .none else p.flags.lineBreak)))) rest
    | '^' :: rest =>
      let place : Anchor := if p.flags.multiLine then .lineStart p.flags.carriage else .textStart
      readGroup fuel (p.push (.anchor place)) rest
    | '$' :: rest =>
      let place : Anchor := if p.flags.multiLine then .lineEnd p.flags.carriage else .textEnd
      readGroup fuel (p.push (.anchor place)) rest
    | '\\' :: rest => do
      let (escape, rest) ← readEscape p.flags rest
      let part := match escape with
        | .char c => literal p.flags c
        | .set set => .one set
        | .place place => .anchor place
      readGroup fuel (p.push part) rest
    | c :: rest => readGroup fuel (p.push (literal p.flags c)) rest
where
  /-- Reads a group inside another and the closing parenthesis, then goes on with the outer one. -/
  readInner (fuel : Nat) (outer : Partial) (flags : Flags) (names : List (List Char)) (s : List Char) :
      Option (Partial × List Char) := do
    let (inner, rest) ← readGroup fuel ⟨flags, [], [], names⟩ s
    match rest with
    | ')' :: rest => readGroup fuel { outer.push inner.close with names := inner.names } rest
    | _ => none

/-- The weight above which a pattern is refused. -/
def greatestWeight : Nat := 10485760

/-- The pattern that a text writes, if it writes one and it is not too large. -/
def parse? (text : String) : Option Pattern := do
  let s := text.toList
  match ← readGroup (2 * s.length + 1) ⟨{}, [], [], []⟩ s with
  | (p, []) => if p.close.weight ≤ greatestWeight then return p.close else none
  | _ => none

end Pattern

end Faultline
