import Faultline.Table
import Faultline.Value.Basic

namespace Faultline

/-- The fields of an object by name. -/
abbrev Fields := Table String Value

/-- The objects created so far: an object's identity is its position, and none is ever removed. -/
structure Heap where
  objects : Array Fields
deriving DecidableEq

/-- The object a value refers to, itself or inside a box. -/
def Value.reference? : Value → Option Reference
  | .object reference => some reference
  | .boxed inner => inner.reference?
  | _ => none

namespace Heap

def empty : Heap := ⟨#[]⟩

instance : Inhabited Heap := ⟨empty⟩

def size (heap : Heap) : Nat := heap.objects.size

/-- The reference that the next object created will have. -/
def next (heap : Heap) (className : String) : Reference := ⟨heap.size, className⟩

def alloc (heap : Heap) (className : String) (fields : Fields) : Reference × Heap :=
  (heap.next className, ⟨heap.objects.push fields⟩)

/-- The fields of an object; an identity not yet given out has none. -/
def fields (heap : Heap) (id : Nat) : Fields := heap.objects[id]?.getD .empty

def field? (heap : Heap) (reference : Reference) (name : String) : Option Value :=
  (heap.fields reference.id).get? name

def setFields (heap : Heap) (reference : Reference) (fields : Fields) : Heap :=
  ⟨heap.objects.setIfInBounds reference.id fields⟩

def setField (heap : Heap) (reference : Reference) (name : String) (value : Value) : Heap :=
  ⟨heap.objects.modify reference.id fun fields => fields.insert name value⟩

/-- The objects that an object's fields refer to. -/
def successors (heap : Heap) (id : Nat) : List Nat :=
  (heap.fields id).values.filterMap fun value => value.reference?.map (·.id)

end Heap

/-- A copy under way: the new object of each object met so far, and the heap with the new objects at its end. -/
structure Copying where
  copies : Table Nat Nat
  heap : Heap

namespace Copying

/-- The objects of the heap as it was that have no copy yet. -/
def pending (origin : Heap) (state : Copying) : List Nat :=
  (List.range origin.size).filter fun id => !state.copies.contains id

/-- Creates the copy of an object, without fields so far, and notes it. -/
def enter (state : Copying) (original : Reference) : Copying :=
  let (copy, heap) := state.heap.alloc original.className .empty
  ⟨state.copies.insert original.id copy.id, heap⟩

/-- Gives a copy its fields. -/
def complete (state : Copying) (copy : Reference) (fields : Fields) : Copying :=
  { state with heap := state.heap.setFields copy fields }

/-- Entering an object leaves fewer without a copy: the measure of the recursion. -/
theorem pending_enter_lt {origin : Heap} {state : Copying} {original : Reference}
    (first : state.copies.get? original.id = none) (inside : original.id < origin.size) :
    ((state.enter original).pending origin).length < (state.pending origin).length := by
  have fewer : (state.enter original).pending origin =
      (state.pending origin).filter fun id => id ≠ original.id := by
    simp only [pending, List.filter_filter]
    congr 1
    funext id
    by_cases here : id = original.id <;>
      simp [here, enter, Table.contains, Table.get?_insert]
  rw [fewer, List.length_filter_lt_length_iff_exists]
  exact ⟨original.id, by simp [pending, Table.contains, first, inside], by simp⟩

/-- What copying a part comes to: the copy, and the state afterwards, in which no more objects are without one. -/
structure Outcome (origin : Heap) (state : Copying) (α : Type) where
  copied : α
  later : Copying
  fewer : (later.pending origin).length ≤ (state.pending origin).length

/-- A way to copy objects as long as no more than `bound` of them have no copy yet. -/
abbrev ObjectCopier (origin : Heap) (bound : Nat) :=
  (state : Copying) → (state.pending origin).length ≤ bound → Reference → Outcome origin state Reference

section Parts

variable {origin : Heap} {bound : Nat} (object : ObjectCopier origin bound)

/-- Copies a value, and with it the object in it. -/
def copyValue (state : Copying) (within : (state.pending origin).length ≤ bound) : Value → Outcome origin state Value
  | .object reference =>
    let outcome := object state within reference
    ⟨.object outcome.copied, outcome.later, outcome.fewer⟩
  | .boxed inner =>
    let outcome := copyValue state within inner
    ⟨.boxed outcome.copied, outcome.later, outcome.fewer⟩
  | value => ⟨value, state, Nat.le_refl _⟩

/-- Copies the values of fields, one after the other. -/
def copyEntries (state : Copying) (within : (state.pending origin).length ≤ bound) :
    List (String × Value) → Outcome origin state (List (String × Value))
  | [] => ⟨[], state, Nat.le_refl _⟩
  | (name, value) :: rest =>
    let first := copyValue object state within value
    let others := copyEntries first.later (Nat.le_trans first.fewer within) rest
    ⟨(name, first.copied) :: others.copied, others.later, Nat.le_trans others.fewer first.fewer⟩

end Parts

/-- Copies an object and all that it leads to. One that has a copy is not copied again; any other is given one
before its fields are copied, so that a cycle leads back to the copy. -/
def copyObject (origin : Heap) (state : Copying) (reference : Reference) : Outcome origin state Reference :=
  match first : state.copies.get? reference.id with
  | some copy => ⟨{ reference with id := copy }, state, Nat.le_refl _⟩
  | none =>
    if inside : reference.id < origin.size then
      let copy := state.heap.next reference.className
      let fields := copyEntries (fun state _ reference => copyObject origin state reference)
        (state.enter reference) (Nat.le_refl _) (origin.fields reference.id).entries
      ⟨copy, fields.later.complete copy (.ofList fields.copied),
        Nat.le_trans fields.fewer (Nat.le_of_lt (pending_enter_lt first inside))⟩
    else ⟨reference, state, Nat.le_refl _⟩
termination_by (state.pending origin).length
decreasing_by exact Nat.lt_of_le_of_lt ‹_› (pending_enter_lt first inside)

/-- Copies a value and all that it leads to. -/
def copyWhole (origin : Heap) (state : Copying) (value : Value) : Outcome origin state Value :=
  copyValue (fun state _ reference => copyObject origin state reference) state (Nat.le_refl _) value

end Copying

/-- A copy of the value that shares no object with it: every reachable object is created anew, with
sharing and cycles among them as before. -/
def Heap.copy (heap : Heap) (value : Value) : Value × Heap :=
  let outcome := Copying.copyWhole heap ⟨.empty, heap⟩ value
  (outcome.copied, outcome.later.heap)

end Faultline
