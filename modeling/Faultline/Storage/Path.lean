namespace Faultline

/-- The parts of a text between separators, of which there is always one more than separators. -/
def splitAt (separator : Char) : List Char → List (List Char)
  | [] => [[]]
  | c :: rest =>
    match splitAt separator rest with
    | [] => [[c]]
    | part :: parts => if c = separator then [] :: part :: parts else (c :: part) :: parts

/-- A path as it is written. Slashes divide it into names; an empty part says nothing, a single dot stays
in the same folder, and two dots lead to the one above. -/
structure Path where
  text : String
deriving DecidableEq, Repr, Inhabited

namespace Path

instance : ToString Path := ⟨text⟩

def isAbsolute (path : Path) : Bool := path.text.startsWith "/"

/-- A path seen from another one: joined to it by a slash unless it is absolute. -/
def join (base path : Path) : Path :=
  if path.isAbsolute || base.text = "" then path
  else if base.text.endsWith "/" then ⟨base.text ++ path.text⟩
  else ⟨base.text ++ "/" ++ path.text⟩

/-- The parts between the slashes, empty ones included. -/
def parts (path : Path) : List String := (splitAt '/' path.text.toList).map String.ofList

/-- The names to follow, one after the other. A slash at the end means that the last one is a folder, just
as a dot after it would. -/
def steps (path : Path) : List String :=
  path.parts.filter (· != "") ++ if path.text.endsWith "/" then ["."] else []

/-- The first part of a path belongs to none of its names if the path is absolute or starts with a dot. -/
def splitLead (path : Path) : Option String × List String :=
  match path.parts with
  | "" :: part :: parts => (some "", part :: parts)
  | "." :: parts => (some ".", parts)
  | parts => (none, parts)

def ofLead (lead : Option String) (parts : List String) : Path :=
  match lead, parts with
  | some "", [] => ⟨"/"⟩
  | some lead, parts => ⟨"/".intercalate (lead :: parts)⟩
  | none, parts => ⟨"/".intercalate parts⟩

/-- Drops the parts at the end that say nothing. -/
def dropIdle (parts : List String) : List String :=
  (parts.reverse.dropWhile fun part => part = "" || part = ".").reverse

/-- The path without its last name, if it has one. -/
def parent? (path : Path) : Option Path :=
  let (lead, parts) := path.splitLead
  match dropIdle parts, lead with
  | [], some "." => some ⟨""⟩
  | [], _ => none
  | parts, lead => some (ofLead lead (dropIdle parts.dropLast))

/-- The folder that holds what the path names. -/
def folder (path : Path) : Path :=
  match path.parent? with
  | none | some ⟨""⟩ => ⟨"."⟩
  | some parent => parent

/-- The last name, unless it leads upwards. -/
def fileName? (path : Path) : Option String := ((dropIdle path.splitLead.2).getLast?).filter (· != "..")

/-- Divides a name at its last dot, which counts only behind another character. -/
def splitName (name : String) : String × Option String :=
  let backwards := name.toList.reverse
  match backwards.dropWhile (· != '.') with
  | [] | [_] => (name, none)
  | _ :: stem => (.ofList stem.reverse, some (.ofList (backwards.takeWhile (· != '.')).reverse))

def extension? (path : Path) : Option String := path.fileName?.bind fun name => (splitName name).2

/-- The characters without the last ones that take up `size` bytes. -/
def dropBytes (size : Nat) (text : List Char) : List Char :=
  (go size text.reverse).reverse
where
  go (size : Nat) : List Char → List Char
    | [] => []
    | c :: rest => if size = 0 then c :: rest else go (size - c.utf8Size) rest

/-- The path up to the stem of its last name, continued by a dot and an extension. A path that ends in no
name stays as it is. -/
def extend (path : Path) (extension : String) : Path :=
  match path.fileName? with
  | none => path
  | some name =>
    let (lead, parts) := path.splitLead
    ofLead lead ((dropIdle parts).dropLast ++ [(splitName name).1 ++ "." ++ extension])

/-- The path with another extension. As many bytes as the present one has are taken off the end of the text,
then the rest, which as a rule ends in a dot now, is extended. -/
def withExtension (path : Path) (extension : String) : Path :=
  extend ⟨.ofList (dropBytes ((path.extension?.map String.utf8ByteSize).getD 0) path.text.toList)⟩ extension

end Path

end Faultline
