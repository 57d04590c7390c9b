import Faultline.Text.Pattern.Escape

namespace Faultline

namespace Pattern

/-- The characters of a named class such as `alpha`, all of them ASCII. -/
def namedSet? : String → Option CharSet
  | "alnum" => some (.union (.range '0' '9') (.union (.range 'A' 'Z') (.range 'a' 'z')))
  | "alpha" => some (.union (.range 'A' 'Z') (.range 'a' 'z'))
  | "ascii" => some (.range (.ofNat 0) (.ofNat 127))
  | "blank" => some (.union (.single '\t') (.single ' '))
  | "cntrl" => some (.union (.range (.ofNat 0) (.ofNat 31)) (.single (.ofNat 127)))
  | "digit" => some (.range '0' '9')
  | "graph" => some (.range '!' '~')
  | "lower" => some (.range 'a' 'z')
  | "print" => some (.range ' ' '~')
  | "punct" =>
    some (.union (.union (.range '!' '/') (.range ':' '@')) (.union (.range '[' (.ofNat 96)) (.range '\x7b' '~')))
  | "space" => some (.union (.range '\t' '\r') (.single ' '))
  | "upper" => some (.range 'A' 'Z')
  | "word" => some (.union (.union (.range '0' '9') (.single '_')) (.union (.range 'A' 'Z') (.range 'a' 'z')))
  | "xdigit" => some (.union (.range '0' '9') (.union (.range 'A' 'F') (.range 'a' 'f')))
  | _ => none

/-- A named class with its brackets, `[:alpha:]` or `[:^alpha:]`, of which the first is already read. -/
def readNamedSet : List Char → Option (CharSet × List Char)
  | ':' :: rest =>
    let (negated, rest) := match rest with
      | '^' :: rest => (true, rest)
      | _ => (false, rest)
    match rest.span (· != ':') with
    | (name, ':' :: ']' :: rest) =>
      (namedSet? (.ofList name)).map fun set => (if negated then .inverse set else set, rest)
    | _ => none
  | _ => none

/-- How the items after an operator combine with those before it. -/
inductive SetOperator where
  | union
  | common
  | without
  | either

def SetOperator.apply (a b : CharSet) : SetOperator → CharSet
  | union => .union a b
  | common => .common a b
  | without => .without a b
  | either => .union (.without a b) (.without b a)

/-- One item of a class: a character that may start a range, or a set. -/
def readSetItem (flags : Flags) : List Char → Option (Escape × List Char)
  | '\\' :: rest =>
    match readEscape flags rest with
    | some (.place _, _) => none
    | item => item
  | c :: rest => some (.char c, rest)
  | [] => none

/-- The part of a class that an operator has yet to combine: the operator, what is before it, and the items
read since. -/
structure PendingSet where
  operator : SetOperator
  before : CharSet
  items : CharSet

def PendingSet.value (pending : PendingSet) : CharSet := pending.operator.apply pending.before pending.items

def PendingSet.add (pending : PendingSet) (set : CharSet) : PendingSet :=
  { pending with items := .union pending.items set }

def PendingSet.combine (pending : PendingSet) (operator : SetOperator) : PendingSet :=
  ⟨operator, pending.value, .none⟩

/-- What follows a hyphen that makes a range: not one before the end of the class or another hyphen. -/
def rangeEnd? (flags : Flags) (s : List Char) : Option (List Char) :=
  match flags.skip s with
  | '-' :: rest =>
    let rest := flags.skip rest
    if rest.head? = some ']' || rest.head? = some '-' then none else some rest
  | _ => none

/-- The hyphens that a class starts with, and what follows them. -/
def leadingHyphens (flags : Flags) : Nat → List Char → CharSet × List Char
  | 0, s => (.none, s)
  | fuel + 1, s =>
    match flags.skip s with
    | '-' :: rest => (.single '-', (leadingHyphens flags fuel rest).2)
    | rest => (.none, rest)

/-- The items of a class up to its closing bracket. -/
def readSetItems (flags : Flags) : Nat → PendingSet → List Char → Option (CharSet × List Char)
  | 0, _, _ => none
  | fuel + 1, pending, s =>
    match flags.skip s with
    | [] => none
    | ']' :: rest => some (pending.value, rest)
    | '&' :: '&' :: rest => readSetItems flags fuel (pending.combine .common) rest
    | '-' :: '-' :: rest => readSetItems flags fuel (pending.combine .without) rest
    | '~' :: '~' :: rest => readSetItems flags fuel (pending.combine .either) rest
    | '[' :: rest =>
      match readNamedSet rest with
      | some (set, rest) => readSetItems flags fuel (pending.add (flags.fold set)) rest
      | none =>
        match openSet fuel rest with
        | some (set, rest) => readSetItems flags fuel (pending.add set) rest
        | none => none
    | s =>
      match readSetItem flags s with
      | some (.char first, rest) =>
        match rangeEnd? flags rest with
        | some rest =>
          match readSetItem flags rest with
          | some (.char last, rest) =>
            if first ≤ last then readSetItems flags fuel (pending.add (flags.fold (.range first last))) rest
            else none
          | _ => none
        | none => readSetItems flags fuel (pending.add (flags.fold (.single first))) rest
      | some (.set set, rest) =>
        if (rangeEnd? flags rest).isSome then none
        else readSetItems flags fuel (pending.add (flags.fold set)) rest
      | _ => none
where
  /-- A class after its opening bracket: hyphens and a closing bracket that come first stand for
  themselves. -/
  openSet (fuel : Nat) (s : List Char) : Option (CharSet × List Char) :=
    let (negated, s) := match flags.skip s with
      | '^' :: rest => (true, rest)
      | rest => (false, rest)
    let (hyphen, s) := leadingHyphens flags s.length s
    let start : PendingSet := ⟨.union, .none, hyphen⟩
    let (start, s) := match hyphen, flags.skip s with
      | .none, ']' :: rest => (start.add (.single ']'), rest)
      | _, rest => (start, rest)
    (readSetItems flags fuel start s).map fun (set, rest) => (if negated then .inverse set else set, rest)

end Pattern

end Faultline
