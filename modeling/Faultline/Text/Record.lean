import Faultline.Text.Json

namespace Faultline

/-- Whether a record may lack a field: never, only when its fields are named, or always. -/
inductive Presence where
  | required
  | optional
  | defaulted
deriving DecidableEq

/-- The values of a record's fields in the order of `fields`, nothing where an optional or defaulted one is
absent. A field stands at most once among the members, and others are ignored. -/
def namedFields? {ν : Type} (fields : List (String × Presence)) (members : List (String × ν)) :
    Option (List (Option ν)) :=
  fields.mapM fun (name, presence) =>
    match members.filter fun member => member.1 = name with
    | [] => if presence = .required then none else some none
    | [member] => some (some member.2)
    | _ => none

/-- The values of a record that is written without names, as a list of its fields in order. -/
def listedFields? {ν : Type} (fields : List (String × Presence)) (items : List ν) : Option (List (Option ν)) :=
  if fields.length < items.length then none
  else fields.zipIdx.mapM fun ((_, presence), position) =>
    match items[position]? with
    | some item => some (some item)
    | none => if presence = .defaulted then some none else none

/-- A notation in whose values texts, numbers, lists and records can be written. -/
class Document (ν : Type) where
  text? : ν → Option String
  longWord? : ν → Option UInt64
  /-- The name of an alternative that carries no data. -/
  choice? : ν → Option String
  isNull : ν → Bool
  items? : ν → Option (List ν)
  fields? : List (String × Presence) → ν → Option (List (Option ν))

namespace Json

def text? : Json → Option String
  | string s => some s
  | _ => none

/-- An integer from 0 to `bound`. -/
def natural? (bound : Nat) : Json → Option Nat
  | integer n => if 0 ≤ n && n ≤ bound then some n.toNat else none
  | _ => none

def word? (json : Json) : Option UInt32 := (json.natural? 0xFFFFFFFF).map UInt32.ofNat

def longWord? (json : Json) : Option UInt64 := (json.natural? 0xFFFFFFFFFFFFFFFF).map UInt64.ofNat

def list? {α : Type} (item? : Json → Option α) : Json → Option (List α)
  | array items => items.mapM item?
  | _ => none

/-- The value, or nothing for null. -/
def optional? {α : Type} (value? : Json → Option α) : Json → Option (Option α)
  | null => some none
  | json => (value? json).map some

/-- The alternative's name, as a text or as the only member of an object, with null. -/
def choice? : Json → Option String
  | string name => some name
  | object [(name, null)] => some name
  | _ => none

/-- A record is an object or an array of its fields. -/
def fields? (fields : List (String × Presence)) : Json → Option (List (Option Json))
  | object members => namedFields? fields members
  | array items => listedFields? fields items
  | _ => none

/-- The values of a record all of whose fields are required. -/
def required? (names : List String) (json : Json) : Option (List Json) := do
  let values ← json.fields? (names.map fun name => (name, .required))
  values.mapM id

instance : Document Json where
  text? := text?
  longWord? := longWord?
  choice? := choice?
  isNull
    | null => true
    | _ => false
  items? := list? some
  fields? := fields?

end Json

end Faultline
