import Faultline.Text.Quoted

namespace Faultline

/-- A JSON text's value. The members of an object stand as written, repeated names included, and of a
number that is no integer only its digits are kept. -/
inductive Json where
  | null
  | bool (b : Bool)
  | integer (n : Int)
  | decimal (digits : String)
  | string (s : String)
  | array (items : List Json)
  | object (members : List (String × Json))
deriving Inhabited

namespace Json

/-- A character inside a string: the quote, the backslash and the controls are escaped, nothing else. -/
def escapeChar (c : Char) : String :=
  if c = '"' then "\\\""
  else if c = '\\' then "\\\\"
  else if c = '\n' then "\\n"
  else if c = '\r' then "\\r"
  else if c = '\t' then "\\t"
  else if c.toNat = 8 then "\\b"
  else if c.toNat = 12 then "\\f"
  else if c.toNat < 16 then "\\u000" ++ hexDigits c.toNat
  else if c.toNat < 32 then "\\u00" ++ hexDigits c.toNat
  else c.toString

def quote (s : String) : String := "\"" ++ String.join (s.toList.map escapeChar) ++ "\""

/-- A new line, indented by two spaces for each level. -/
def newline (level : Nat) : String := "\n" ++ String.ofList (List.replicate (2 * level) ' ')

mutual

/-- The value over several lines, its parts one level further in. -/
def renderAt (level : Nat) : Json → String
  | null => "null"
  | bool b => if b then "true" else "false"
  | integer n => n.repr
  | decimal digits => digits
  | string s => quote s
  | array [] => "[]"
  | array (item :: rest) =>
    "[" ++ newline (level + 1) ++ renderAt (level + 1) item ++ renderItems (level + 1) rest ++
      newline level ++ "]"
  | object [] => "\x7b\x7d"
  | object (member :: rest) =>
    "\x7b" ++ newline (level + 1) ++ renderMember (level + 1) member ++ renderMembers (level + 1) rest ++
      newline level ++ "\x7d"

def renderItems (level : Nat) : List Json → String
  | [] => ""
  | item :: rest => "," ++ newline level ++ renderAt level item ++ renderItems level rest

def renderMember (level : Nat) : String × Json → String
  | (name, value) => quote name ++ ": " ++ renderAt level value

def renderMembers (level : Nat) : List (String × Json) → String
  | [] => ""
  | member :: rest => "," ++ newline level ++ renderMember level member ++ renderMembers level rest

end

/-- The value as an indented text. -/
def render (json : Json) : String := renderAt 0 json

end Json

end Faultline
