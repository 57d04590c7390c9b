import Faultline.Text.Yaml

namespace Faultline

namespace Yaml

/-- What is still to be read of a text, and the column it starts at. -/
structure Cursor where
  rest : List Char
  column : Nat

def isBlank (c : Char) : Bool := c = ' ' || c = '\t' || c = '\n'

/-- Whether a character that ends a token comes next. -/
def atBlank (rest : List Char) : Bool := (rest.head?.map isBlank).getD true

def isFlowMark (c : Char) : Bool := [',', '[', ']', '\x7b', '\x7d'].contains c

/-- Skips blanks and comments, and says whether a line ended on the way. In a block a tab indents nothing. -/
def skipFrom (flow comment crossed : Bool) : List Char → Nat → Cursor × Bool
  | [], column => (⟨[], column⟩, crossed)
  | c :: rest, column =>
    if c = '\n' then skipFrom flow false true rest 0
    else if comment || c = ' ' || c = '\t' && (flow || !crossed) then
      skipFrom flow comment crossed rest (column + 1)
    else if c = '#' then skipFrom flow true crossed rest (column + 1)
    else (⟨c :: rest, column⟩, crossed)

def skip (s : Cursor) : Cursor × Bool := skipFrom false false false s.rest s.column

def skipInFlow (s : Cursor) : Cursor := (skipFrom true false false s.rest s.column).1

/-- Whether a line starts with the marks that set documents apart. -/
def atMarker (s : Cursor) : Bool :=
  s.column = 0 && (s.rest.take 3 = ['-', '-', '-'] || s.rest.take 3 = ['.', '.', '.']) && atBlank (s.rest.drop 3)

def atEnd (s : Cursor) : Bool := s.rest.isEmpty || atMarker s

/-- Whether an item of a block sequence starts here. -/
def atItem : List Char → Bool
  | '-' :: rest => atBlank rest
  | _ => false

/-- Whether text without quotes can start here. -/
def startsPlain (flow : Bool) : List Char → Bool
  | [] => false
  | c :: rest =>
    if c = '-' || c = '?' || c = ':' then !atBlank rest && !(flow && (rest.head?.map isFlowMark).getD false)
    else !isBlank c && !isFlowMark c && !"#&*!|>'\"%@\x60".toList.contains c

/-- Whether a colon before `rest` ends text without quotes. -/
def endsKey (flow : Bool) (rest : List Char) : Bool :=
  atBlank rest || flow && (rest.head?.map isFlowMark).getD false

/-- The part of a line that belongs to text without quotes, and the rest. -/
def plainLine (flow : Bool) : List Char → List Char × List Char
  | [] => ([], [])
  | c :: rest =>
    if c = '\n' || c = ':' && endsKey flow rest || flow && isFlowMark c || isBlank c && rest.head? = some '#' then
      ([], c :: rest)
    else
      let (line, rest) := plainLine flow rest
      (c :: line, rest)

def trimEnd (text : List Char) : List Char := (text.reverse.dropWhile isBlank).reverse

/-- The line ends before the next character that is no blank, and what starts with it. -/
def lineEnds : List Char → Nat → Nat → Nat × Cursor
  | [], column, count => (count, ⟨[], column⟩)
  | c :: rest, column, count =>
    if c = '\n' then lineEnds rest 0 (count + 1)
    else if isBlank c then lineEnds rest (column + 1) count
    else (count, ⟨c :: rest, column⟩)

/-- A single line end inside a scalar is a space; of several all but the first are kept. -/
def folded (count : Nat) : List Char := if count ≤ 1 then [' '] else List.replicate (count - 1) '\n'

/-- Text without quotes, which goes on in later lines that are indented far enough. -/
def readPlain (flow : Bool) (indent : Nat) : Nat → Cursor → Option (List Char × Cursor)
  | 0, _ => none
  | fuel + 1, s =>
    let (line, rest) := plainLine flow s.rest
    let s := ⟨rest, s.column + line.length⟩
    let line := trimEnd line
    match rest with
    | '\n' :: _ =>
      let (count, next) := lineEnds rest s.column 0
      if atEnd next || next.rest.head? = some '#' || !flow && next.column < indent ||
          (plainLine flow next.rest).1.isEmpty then
        some (line, s)
      else (readPlain flow indent fuel next).map fun (more, s) => (line ++ folded count ++ more, s)
    | _ => some (line, s)

/-- The character after a backslash, given by name or by so many hexadecimal digits. -/
def readEscape : List Char → Option (Char × List Char)
  | [] => none
  | c :: rest =>
    let code (width : Nat) : Option (Char × List Char) := do
      let n ← ofDigits? 16 (rest.take width)
      if rest.length < width || !n.isValidChar then none else return (.ofNat n, rest.drop width)
    let names : List (Char × Nat) := [('0', 0), ('a', 7), ('b', 8), ('t', 9), ('\t', 9), ('n', 10), ('v', 11),
      ('f', 12), ('r', 13), ('e', 27), (' ', 32), ('"', 34), ('/', 47), ('\\', 92), ('N', 0x85), ('_', 0xA0),
      ('L', 0x2028), ('P', 0x2029)]
    match c with
    | 'x' => code 2
    | 'u' => code 4
    | 'U' => code 8
    | c => (names.lookup c).map fun n => (.ofNat n, rest)

/-- Text up to the closing quote, with the characters before it in reverse. -/
def readQuoted (quote : Char) : Nat → List Char → Cursor → Option (String × Cursor)
  | 0, _, _ => none
  | fuel + 1, before, s =>
    match s.rest with
    | [] => none
    | '\n' :: _ =>
      let (count, next) := lineEnds s.rest s.column 0
      if atEnd next then none
      else readQuoted quote fuel ((folded count).reverse ++ before.dropWhile isBlank) next
    | c :: rest =>
      if c = quote then
        match quote, rest with
        | '\'', '\'' :: rest => readQuoted quote fuel ('\'' :: before) ⟨rest, s.column + 2⟩
        | _, _ => some (.ofList before.reverse, ⟨rest, s.column + 1⟩)
      else if quote = '"' && c = '\\' then
        match rest with
        | '\n' :: _ =>
          let (count, next) := lineEnds rest s.column 0
          readQuoted quote fuel (List.replicate (count - 1) '\n' ++ before) next
        | _ => do
          let (c, rest) ← readEscape rest
          readQuoted quote fuel (c :: before) ⟨rest, s.column + 2⟩
      else readQuoted quote fuel (c :: before) ⟨rest, s.column + 1⟩

def readScalar (flow : Bool) (indent : Nat) (s : Cursor) : Option (Yaml × Cursor) :=
  let fuel := s.rest.length + 1
  match s.rest with
  | '"' :: rest => (readQuoted '"' fuel [] ⟨rest, s.column + 1⟩).map fun (text, s) => (scalar text false, s)
  | '\'' :: rest => (readQuoted '\'' fuel [] ⟨rest, s.column + 1⟩).map fun (text, s) => (scalar text false, s)
  | rest =>
    if startsPlain flow rest then
      (readPlain flow indent fuel s).map fun (text, s) => (scalar (.ofList text) true, s)
    else none

/-- A key of a block mapping, which stands in one line with its colon, and what comes after it. -/
def readKey? (s : Cursor) : Option (Yaml × Cursor) := do
  let (key, after) ← match s.rest with
    | '"' :: _ | '\'' :: _ => readScalar false 0 s
    | rest =>
      if startsPlain false rest then
        let (line, rest) := plainLine false rest
        some (scalar (.ofList (trimEnd line)) true, ⟨rest, s.column + line.length⟩)
      else none
  let ahead := after.rest.dropWhile fun c => c = ' ' || c = '\t'
  let used := s.rest.take (s.rest.length - ahead.length)
  match ahead with
  | ':' :: rest =>
    if atBlank rest && !used.contains '\n' then return (key, ⟨rest, s.column + used.length + 1⟩) else none
  | _ => none

/-! Flow collections, which brackets and braces delimit. -/

mutual

def readFlow : Nat → Cursor → Option (Yaml × Cursor)
  | 0, _ => none
  | fuel + 1, s =>
    match s.rest with
    | '[' :: rest => (readFlowItems fuel ⟨rest, s.column + 1⟩).map fun (items, s) => (sequence items, s)
    | '\x7b' :: rest => (readFlowMembers fuel ⟨rest, s.column + 1⟩).map fun (members, s) => (mapping members, s)
    | _ => readScalar true 0 s

/-- The value after a colon, or nothing if there is none. -/
def readFlowValue : Nat → Cursor → Option (Option Yaml × Cursor)
  | 0, _ => none
  | fuel + 1, s =>
    match (skipInFlow s).rest with
    | ':' :: rest =>
      let s := skipInFlow ⟨rest, s.column + 1⟩
      match s.rest with
      | ',' :: _ | ']' :: _ | '\x7d' :: _ => some (some nothing, s)
      | _ => (readFlow fuel s).map fun (value, s) => (some value, s)
    | _ => some (none, s)

/-- Items up to the closing bracket. An item with a colon is a mapping of one member. -/
def readFlowItems : Nat → Cursor → Option (List Yaml × Cursor)
  | 0, _ => none
  | fuel + 1, s => do
    let s := skipInFlow s
    match s.rest with
    | ']' :: rest => return ([], ⟨rest, s.column + 1⟩)
    | _ =>
      let (item, s) ← readFlow fuel s
      let (value, s) ← readFlowValue fuel s
      let item := value.elim item fun value => mapping [(item, value)]
      let s := skipInFlow s
      match s.rest with
      | ',' :: rest =>
        let (items, s) ← readFlowItems fuel ⟨rest, s.column + 1⟩
        return (item :: items, s)
      | ']' :: rest => return ([item], ⟨rest, s.column + 1⟩)
      | _ => none

def readFlowMembers : Nat → Cursor → Option (List (Yaml × Yaml) × Cursor)
  | 0, _ => none
  | fuel + 1, s => do
    let s := skipInFlow s
    match s.rest with
    | '\x7d' :: rest => return ([], ⟨rest, s.column + 1⟩)
    | _ =>
      let (key, s) ← readFlow fuel s
      let (value, s) ← readFlowValue fuel s
      let member := (key, value.getD nothing)
      let s := skipInFlow s
      match s.rest with
      | ',' :: rest =>
        let (members, s) ← readFlowMembers fuel ⟨rest, s.column + 1⟩
        return (member :: members, s)
      | '\x7d' :: rest => return ([member], ⟨rest, s.column + 1⟩)
      | _ => none

end

/-! Block collections, which indentation delimits. -/

/-- How a collection at a column goes on after one of its parts: with what stands next in that column, or
not at all because there is nothing further in. -/
def nextPart (column : Nat) (s : Cursor) : Option (Option Cursor) :=
  let (next, crossed) := skip s
  if atEnd next then some none
  else if !crossed || column < next.column then none
  else some (if next.column = column then some next else none)

mutual

/-- A value whose lines are indented by at least `indent`. A block collection can start only where `block`
allows it, behind a line end or the dash of an item. -/
def readNode : Nat → Nat → Bool → Cursor → Option (Yaml × Cursor)
  | 0, _, _, _ => none
  | fuel + 1, indent, block, s =>
    match s.rest with
    | '[' :: _ | '\x7b' :: _ => readFlow (2 * s.rest.length + 1) s
    | rest =>
      if atItem rest then
        if block then (readItems fuel s.column false s).map fun (items, s) => (sequence items, s) else none
      else if (readKey? s).isSome then
        if block then (readMembers fuel s.column s).map fun (members, s) => (mapping members, s) else none
      else readScalar false indent s

/-- The items of a block sequence whose dashes stand in `column`. Where that is also the column of the
mapping around it, `shared`, its next key ends the sequence. -/
def readItems : Nat → Nat → Bool → Cursor → Option (List Yaml × Cursor)
  | 0, _, _, _ => none
  | fuel + 1, column, shared, s => do
    let after : Cursor := ⟨s.rest.drop 1, s.column + 1⟩
    let (next, crossed) := skip after
    let (item, s) ←
      if atEnd next || crossed && next.column ≤ column then some (nothing, after)
      else readNode fuel (column + 1) true next
    match ← nextPart column s with
    | none => return ([item], s)
    | some next =>
      if atItem next.rest then
        let (items, s) ← readItems fuel column shared next
        return (item :: items, s)
      else if shared then return ([item], s)
      else none

/-- The members of a block mapping whose keys stand in `column`. -/
def readMembers : Nat → Nat → Cursor → Option (List (Yaml × Yaml) × Cursor)
  | 0, _, _ => none
  | fuel + 1, column, s => do
    let (key, after) ← readKey? s
    let (next, crossed) := skip after
    let (value, s) ←
      if atEnd next then some (nothing, after)
      else if !crossed || column < next.column then readNode fuel (column + 1) crossed next
      else if next.column = column && atItem next.rest then
        (readItems fuel column true next).map fun (items, s) => (sequence items, s)
      else some (nothing, after)
    match ← nextPart column s with
    | none => return ([(key, value)], s)
    | some next =>
      let (members, s) ← readMembers fuel column next
      return ((key, value) :: members, s)

end

/-- Line ends may be written in any of three ways. -/
def unifyLines : List Char → List Char
  | '\r' :: '\n' :: rest => '\n' :: unifyLines rest
  | '\r' :: rest => '\n' :: unifyLines rest
  | c :: rest => c :: unifyLines rest
  | [] => []

/-- The only document of a text. Anchors, tags and block scalars are not read. -/
def parse? (text : String) : Option Yaml := do
  let (start, _) := skipFrom false false true (unifyLines text.toList) 0
  let marked := start.column = 0 && start.rest.take 3 = ['-', '-', '-'] && atBlank (start.rest.drop 3)
  let (start, crossed) := if marked then skip ⟨start.rest.drop 3, 3⟩ else (start, true)
  if start.rest.isEmpty && !marked then none
  else
    let (document, s) ←
      if atEnd start then some (nothing, start) else readNode (4 * start.rest.length + 4) 0 crossed start
    let (s, crossed) := skip s
    if s.rest.isEmpty then return document
    else if crossed && s.column = 0 && s.rest.take 3 = ['.', '.', '.'] then
      if (skip ⟨s.rest.drop 3, 3⟩).1.rest.isEmpty then return document else none
    else none

end Yaml

end Faultline
