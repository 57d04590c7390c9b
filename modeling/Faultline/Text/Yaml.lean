import Faultline.Text.JsonReader
import Faultline.Text.Record

namespace Faultline

/-- A value of a YAML text. Of a scalar its text is kept and whether it stands there without quotes, for only
then can it be a number or null. -/
inductive Yaml where
  | scalar (text : String) (plain : Bool)
  | sequence (items : List Yaml)
  | mapping (members : List (Yaml × Yaml))
deriving Inhabited

namespace Yaml

/-- What stands where nothing is written. -/
def nothing : Yaml := scalar "" true

def text? : Yaml → Option String
  | scalar text _ => some text
  | _ => none

def isNull : Yaml → Bool
  | scalar text plain => plain && ["", "null", "Null", "NULL", "~"].contains text
  | _ => false

/-- A number from digits of a base, of which there is at least one. -/
def ofDigits? (base : Nat) (digits : List Char) : Option Nat := do
  if digits.isEmpty then none
  else
    let values ← digits.mapM Json.hexValue?
    if values.all (· < base) then return values.foldl (fun n digit => n * base + digit) 0 else none

/-- A number without a minus sign. A zero in front is allowed only before the letter of a base. -/
def natural? (text : String) : Option Nat :=
  let digits := match text.toList with
    | '+' :: digits => digits
    | digits => digits
  match digits with
  | ['0'] => some 0
  | '0' :: 'x' :: digits => ofDigits? 16 digits
  | '0' :: 'o' :: digits => ofDigits? 8 digits
  | '0' :: 'b' :: digits => ofDigits? 2 digits
  | '0' :: _ => none
  | digits => ofDigits? 10 digits

def longWord? : Yaml → Option UInt64
  | scalar text true => ((natural? text).filter (· ≤ 0xFFFFFFFFFFFFFFFF)).map UInt64.ofNat
  | _ => none

/-- A list may be left out where one is expected. -/
def items? : Yaml → Option (List Yaml)
  | sequence items => some items
  | scalar "" true => some []
  | _ => none

/-- A record is a mapping or a sequence of its fields, and may be left out if it needs none of them. -/
def fields? (fields : List (String × Presence)) : Yaml → Option (List (Option Yaml))
  | mapping members => do
    namedFields? fields (← members.mapM fun (key, value) => do return (← key.text?, value))
  | sequence items => listedFields? fields items
  | scalar "" true => namedFields? fields []
  | _ => none

instance : Document Yaml where
  text? := text?
  longWord? := longWord?
  choice? := text?
  isNull := isNull
  items? := items?
  fields? := fields?

end Yaml

end Faultline
