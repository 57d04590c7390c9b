import Faultline.Text.CaseFold
import Faultline.Text.Category
import Faultline.Text.WordChar

namespace Faultline

/-- A set of characters. -/
inductive CharSet where
  | none
  | range (first last : Char)
  | word
  | digit
  | blank
  /-- The characters whose general category starts with one of the names. -/
  | category (names : List String)
  | inverse (set : CharSet)
  | union (a b : CharSet)
  | common (a b : CharSet)
  | without (a b : CharSet)
  /-- The characters that have a case variant in the set. -/
  | anyCase (set : CharSet)
deriving Inhabited

namespace CharSet

def has : CharSet → Char → Bool
  | none, _ => false
  | range first last, c => first ≤ c && c ≤ last
  | word, c => isWordChar c
  | digit, c => isDecimalDigit c
  | blank, c => isBlank c
  | category names, c => names.any fun name => (generalCategory c).startsWith name
  | inverse set, c => !set.has c
  | union a b, c => a.has c || b.has c
  | common a b, c => a.has c && b.has c
  | without a b, c => a.has c && !b.has c
  | anyCase set, c => set.has c || (caseVariants c).any set.has

def single (c : Char) : CharSet := range c c

/-- Roughly the bytes that an automaton needs to tell the set from others. -/
def weight : CharSet → Nat
  | none => 32
  | range _ last => if last.toNat < 128 then 32 else 300
  | word => 70000
  | digit => 6000
  | blank => 600
  | category _ => 45000
  | inverse set => set.weight + 300
  | union a b | common a b | without a b => a.weight + b.weight
  | anyCase set => 2 * set.weight

end CharSet

/-- A condition on a place between characters. Lines end in a line feed or, where `carriage` says so, in a
carriage return or in both. The last two look at one side only. -/
inductive Anchor where
  | textStart
  | textEnd
  | lineStart (carriage : Bool)
  | lineEnd (carriage : Bool)
  | wordEdge
  | noWordEdge
  | wordStart
  | wordEnd
  | noWordBefore
  | noWordAfter
deriving DecidableEq

/-- A regular expression. -/
inductive Pattern where
  | empty
  | one (set : CharSet)
  | anchor (place : Anchor)
  | seq (first second : Pattern)
  | alt (a b : Pattern)
  /-- At least `least` repetitions and, if there is a bound, at most `most`. -/
  | times (body : Pattern) (least : Nat) (most : Option Nat)
deriving Inhabited

def Anchor.holds (text : Array Char) (position : Nat) (place : Anchor) : Bool :=
  let before := if position = 0 then none else text[position - 1]?
  let after := text[position]?
  let wordBefore := before.any isWordChar
  let wordAfter := after.any isWordChar
  match place with
  | textStart => before.isNone
  | textEnd => after.isNone
  | lineStart carriage =>
    before.isNone || before = some '\n' || carriage && before = some '\r' && after != some '\n'
  | lineEnd carriage =>
    after.isNone || carriage && after = some '\r' || after = some '\n' && !(carriage && before = some '\r')
  | wordEdge => wordBefore != wordAfter
  | noWordEdge => wordBefore = wordAfter
  | wordStart => !wordBefore && wordAfter
  | wordEnd => wordBefore && !wordAfter
  | noWordBefore => !wordBefore
  | noWordAfter => !wordAfter

namespace Pattern

/-- The union of two lists of positions. -/
def join (a b : List Nat) : List Nat :=
  b.foldl (fun all position => if position ∈ all then all else position :: all) a

/-- The positions reached from `starts` by any number of steps. Each round but the last adds a position, so
there are at most as many as there are positions. -/
def closure (step : List Nat → List Nat) : Nat → List Nat → List Nat → List Nat
  | 0, reached, _ => reached
  | rounds + 1, reached, fresh =>
    match (step fresh).filter fun position => position ∉ reached with
    | [] => reached
    | added => closure step rounds (join reached added) added

/-- The positions reached by up to `most` steps. -/
def upTo (step : List Nat → List Nat) : Nat → List Nat → List Nat
  | 0, starts => starts
  | most + 1, starts =>
    match step starts with
    | [] => starts
    | ends => join starts (upTo step most ends)

def repeatStep (step : List Nat → List Nat) : Nat → List Nat → List Nat
  | 0, starts => starts
  | n + 1, starts => repeatStep step n (step starts)

/-- Roughly the bytes that an automaton for the pattern needs, every repetition written out. -/
def weight : Pattern → Nat
  | empty | anchor _ => 32
  | one set => set.weight
  | seq first second => first.weight + second.weight
  | alt a b => a.weight + b.weight + 32
  | times body least most => body.weight * least + (body.weight + 32) * most.elim 1 (· - least)

/-- Where matches that begin at one of `starts` may end. -/
def ends (text : Array Char) : Pattern → List Nat → List Nat
  | empty, starts => starts
  | one set, starts => (starts.filter fun position => text[position]?.any set.has).map (· + 1)
  | anchor place, starts => starts.filter fun position => place.holds text position
  | seq first second, starts => second.ends text (first.ends text starts)
  | alt a b, starts => join (a.ends text starts) (b.ends text starts)
  | times body least most, starts =>
    let reached := repeatStep (body.ends text) least starts
    match most with
    | none => closure (body.ends text) (text.size + 1) reached reached
    | some most => upTo (body.ends text) (most - least) reached

/-- Whether the pattern matches somewhere in the text. -/
def matchesIn (pattern : Pattern) (text : String) : Bool :=
  let chars := text.toList.toArray
  !(pattern.ends chars (List.range (chars.size + 1))).isEmpty

end Pattern

end Faultline
