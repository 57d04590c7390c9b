import Faultline.Proofs.Machine.Dispatched
import Faultline.Proofs.Site.HookedProgram

namespace Faultline

/-- The same entry of a trace, but for the instruction having been moved. -/
inductive StackFrame.Moved (program : Program) (sites : Sites) : StackFrame → StackFrame → Prop
  | intro {method : Method} (declared : program.Declares method) (index : Nat) (location : Option Location) :
      Moved program sites ⟨method.qualifiedName, index, location⟩
        ⟨method.qualifiedName, relocate (hookLength (sites method)) index, location⟩

/-- The same error, but for the instructions that it names having been moved. -/
inductive RuntimeError.Moved (program : Program) (sites : Sites) : RuntimeError → RuntimeError → Prop
  | same {error : RuntimeError} (unplaced : error.isPlaced = false) : Moved program sites error error
  | stackUnderflow {method : Method} (declared : program.Declares method) (index : Nat) :
      Moved program sites (.stackUnderflow method.qualifiedName index)
        (.stackUnderflow method.qualifiedName (relocate (hookLength (sites method)) index))
  | thrown (text : String) {trace trace' : List StackFrame}
      (entries : List.Forall₂ (StackFrame.Moved program sites) trace trace') :
      Moved program sites (.thrown text trace) (.thrown text trace')

/-- The same result, memory and hook state, but for instructions named in an error. -/
structure Outcome.Moved {σ : Type} (program : Program) (sites : Sites) (outcome outcome' : Outcome σ) : Prop where
  result : Agree (RuntimeError.Moved program sites) Eq outcome.result outcome'.result
  memory : outcome'.memory = outcome.memory
  hookState : outcome'.hookState = outcome.hookState

/-- A program beside itself with hook calls, while an instruction is being executed. -/
def Matching.hooked (program : Program) (sites : Sites) : Matching where
  place method pointer method' pointer' := program.Declares method ∧ Method.Hooked (sites method) method method' ∧
    ∃ index, pointer = index + 1 ∧ pointer' = relocate (hookLength (sites method)) index + 1
  failure := RuntimeError.Moved program sites
  name_eq := fun ⟨_, hooked, _⟩ => hooked.qualifiedName_eq
  returns_eq := fun ⟨_, hooked, _⟩ => hooked.returns_eq
  plain _ plain := .same (RuntimeError.isPlaced_of_isPlain plain)
  underflow := by
    rintro method _ method' _ ⟨declared, hooked, index, rfl, rfl⟩
    rw [hooked.qualifiedName_eq]
    exact .stackUnderflow declared index
  thrown text places := by
    refine .thrown text ?_
    induction places with
    | nil => exact .nil
    | @cons frame frame' _ _ here _ ih =>
      refine .cons ?_ ih
      obtain ⟨declared, hooked, index, pointer, pointer'⟩ := here
      simp only [Frame.describe, Frame.current, pointer, pointer', Nat.add_sub_cancel,
        hooked.qualifiedName_eq, hooked.located]
      exact .intro declared index _

/-- Calls of a program and of the hooked one that are about to execute the same instruction. -/
structure Frame.Ready (program : Program) (sites : Sites) (frame frame' : Frame) : Prop
    extends Frame.Alike Eq frame frame' where
  declared : program.Declares frame.method
  hooked : Method.Hooked (sites frame.method) frame.method frame'.method
  pointer : frame'.pointer = relocate (hookLength (sites frame.method)) frame.pointer

/-- Calls that wait for another one to return. -/
structure Frame.Waiting (program : Program) (sites : Sites) (frame frame' : Frame) : Prop
    extends Frame.Matches (Matching.hooked program sites) Eq frame frame' where
  pointer : frame'.pointer = relocate (hookLength (sites frame.method)) frame.pointer

/-- A program and the hooked one, compared as they execute instructions with nothing observed. -/
def Comparison.hooked (program : Program) (sites : Sites) : Comparison where
  matching := .hooked program sites
  pairing := Eq
  methods method method' := program.Declares method ∧ Method.Hooked (sites method) method method'
  waits := Frame.Waiting program sites
  interface := fun ⟨_, h⟩ => ⟨h.qualifiedName_eq, h.argCount_eq, h.locals_eq, h.hasBody⟩
  placed := Frame.Waiting.toMatches
  pushed := fun h alike => ⟨h.toMatches.push alike, h.pointer⟩

/-- States of a program and of the hooked one between instructions. -/
inductive State.Hooked {σ : Type} (program : Program) (sites : Sites) : State σ → State σ → Prop
  | intro {frame frame' : Frame} {callers callers' : List Frame} (ready : Frame.Ready program sites frame frame')
      (waiting : List.Forall₂ (Frame.Waiting program sites) callers callers') (memory : Memory) (hookState : σ) :
      Hooked program sites ⟨frame :: callers, memory, hookState⟩ ⟨frame' :: callers', memory, hookState⟩

/-- How the ends of two runs are compared. -/
def State.EndsMoved {σ : Type} (program : Program) (sites : Sites)
    (result : Except RuntimeError (Option Value)) (last : State σ)
    (result' : Except RuntimeError (Option Value)) (last' : State σ) : Prop :=
  Agree (RuntimeError.Moved program sites) Eq result result' ∧ last'.memory = last.memory ∧
    last'.hookState = last.hookState

/-- Steps of a program and of the hooked one where nothing is observed. -/
inductive Step.Hooked {σ : Type} (program : Program) (sites : Sites) : Step σ → Step σ → Prop
  | running {state state' : State σ} (related : State.Hooked program sites state state') :
      Hooked program sites (.running state) (.running state')
  | halted {result result' : Except RuntimeError (Option Value)}
      (same : Agree (RuntimeError.Moved program sites) Eq result result')
      (frames frames' : List Frame) (memory : Memory) (hookState : σ) :
      Hooked program sites (.halted result ⟨frames, memory, hookState⟩) (.halted result' ⟨frames', memory, hookState⟩)

section Equal

theorem Table.alike_self {κ : Type} [Ord κ] (table : Table κ Value) : Table.Alike (Value.Alike Eq) table table :=
  List.forall₂_same.2 fun _ _ => ⟨rfl, Value.Alike.eq_iff.2 rfl⟩

theorem Memory.alike_self (memory : Memory) : Memory.Alike Eq memory memory := by
  refine ⟨⟨OneToOne.eq, ?_⟩, Table.alike_self _⟩
  rintro a _ rfl
  exact Table.alike_self _

theorem Value.Alike.forall₂_eq {values values' : List Value} (h : List.Forall₂ (Value.Alike Eq) values values') :
    values' = values := by
  induction h with
  | nil => rfl
  | cons here _ ih => rw [Value.Alike.eq_iff.1 here, ih]

/-- Effects alike in one and the same memory are equal. -/
theorem Memory.Effect.Alike.eq {effect effect' : Memory.Effect} (h : Memory.Effect.Alike Eq effect effect') :
    effect' = effect := by
  cases h with
  | none => rfl
  | create => rfl
  | @setField reference reference' name value value' owner content =>
    obtain ⟨id, className⟩ := owner
    obtain ⟨a, c⟩ := reference
    obtain ⟨b, d⟩ := reference'
    cases id
    cases className
    rw [Value.Alike.eq_iff.1 content]
  | setStatic field content => rw [Value.Alike.eq_iff.1 content]

theorem Memory.Effect.grow_eq (effect : Memory.Effect) {heap : Heap} {a b : Nat}
    (paired : effect.grow Eq heap heap a b) :
    a = b := by
  cases effect with
  | create =>
    rcases paired with same | ⟨rfl, rfl⟩
    · exact same
    · rfl
  | _ => exact paired

end Equal

section Frames

variable {program : Program} {sites : Sites} {frame frame' : Frame}

theorem Frame.Ready.push (h : Frame.Ready program sites frame frame') (value : Value) :
    Frame.Ready program sites (frame.push value) (frame'.push value) :=
  ⟨⟨h.args, h.locals, .cons (Value.Alike.eq_iff.2 rfl) h.stack⟩, h.declared, h.hooked, h.pointer⟩

theorem Frame.Waiting.ready (h : Frame.Waiting program sites frame frame') : Frame.Ready program sites frame frame' :=
  ⟨h.toAlike, h.place.1, h.place.2.1, h.pointer⟩

/-- The calls as they are once the pointers have moved past the instruction to be executed. -/
theorem Frame.Ready.fetched (h : Frame.Ready program sites frame frame') :
    Frame.Matches (Matching.hooked program sites) Eq { frame with pointer := frame.pointer + 1 }
      { frame' with pointer := frame'.pointer + 1 } :=
  ⟨⟨h.args, h.locals, h.stack⟩, h.declared, h.hooked, frame.pointer, rfl, by rw [h.pointer]⟩

/-- What goes on to the next instruction is ready for it, if no hook call comes in between. -/
theorem Frame.Matches.ready {next next' : Frame} (unobserved : sites frame.method frame.pointer = none)
    (h : Frame.Matches ((Matching.hooked program sites).at { frame with pointer := frame.pointer + 1 }
      { frame' with pointer := frame'.pointer + 1 }) Eq next next')
    (pointer : frame'.pointer = relocate (hookLength (sites frame.method)) frame.pointer) :
    Frame.Waiting program sites next next' := by
  obtain ⟨⟨declared, hooked, placed⟩, ⟨sameMethod, samePointer⟩, sameMethod', samePointer'⟩ := h.place
  refine ⟨⟨h.toAlike, declared, hooked, placed⟩, ?_⟩
  rw [sameMethod, samePointer, samePointer', relocate_succ, pointer]
  simp only [hookLength, unobserved, Option.elim_none, Nat.add_zero]

theorem Frame.enter_ready {method method' : Method} {args : List Value} (declared : program.Declares method)
    (related : Method.Hooked (sites method) method method') :
    Frame.Ready program sites (Frame.enter method args) (Frame.enter method' args) := by
  have interface : Method.SameInterface method method' :=
    ⟨related.qualifiedName_eq, related.argCount_eq, related.locals_eq, related.hasBody⟩
  refine ⟨interface.enter (List.forall₂_same.2 fun _ _ => Value.Alike.eq_iff.2 rfl), declared, related, ?_⟩
  rfl

end Frames

end Faultline
