import Faultline.Proofs.Recording.Alike
import Faultline.Proofs.Recording.Separation

namespace Faultline

/-- The values that a call has at hand. -/
def Frame.Has (frame : Frame) (value : Value) : Prop :=
  value ∈ frame.args.toList ∨ value ∈ frame.locals.toList ∨ value ∈ frame.stack

/-- The values that a program has at hand: arguments, locals and operands of its calls, and static fields. -/
def State.Has {σ : Type} (state : State σ) (value : Value) : Prop :=
  (∃ frame ∈ state.frames, frame.Has value) ∨ value ∈ state.memory.statics.values

/-- A state in calls of the program's methods that has no object at hand but those of a set. -/
structure State.Owned {σ : Type} (program : Program) (own : Nat → Prop) (state : State σ) : Prop where
  frames : ∀ frame ∈ state.frames, Frame.Matches (.within program) (diagonal own) frame frame
  statics : ∀ value ∈ state.memory.statics.values, value.Within own

/-- Whether a value is about to be shown to the hook. -/
def State.Shows {σ : Type} (state : State σ) (point : HookPoint) (value : Value) : Prop :=
  ∃ frame callers instruction type rest, state.frames = frame :: callers ∧
    frame.method.code[frame.pointer]? = some instruction ∧ instruction.opcode = .callHook type ∧
    { frame with pointer := frame.pointer + 1 }.popHookCall type = .ok ((point, value), rest)

section Diagonal

variable {pairing : Nat → Nat → Prop} {own : Nat → Prop} {program : Program}

theorem Table.alike_same {κ ν : Type} [Ord κ] {related : ν → ν → Prop} {table : Table κ ν} :
    Table.Alike related table table ↔ ∀ value ∈ table.values, related value value := by
  refine List.forall₂_same.trans ⟨?_, fun same entry listed => ⟨rfl, same _ (List.mem_map_of_mem listed)⟩⟩
  intro same value listed
  obtain ⟨entry, stored, rfl⟩ := List.mem_map.1 listed
  exact (same entry stored).2

theorem Frame.Matches.onDiagonal {frame : Frame} (h : Frame.Matches (.within program) pairing frame frame) :
    Frame.Matches (.within program) (diagonal fun id => pairing id id) frame frame := by
  have alike : ∀ {values : List Value}, List.Forall₂ (Value.Alike pairing) values values →
      List.Forall₂ (Value.Alike (diagonal fun id => pairing id id)) values values := fun same =>
    List.forall₂_same.2 fun value listed => (List.forall₂_same.1 same value listed).within.alike
  exact ⟨⟨alike h.args, alike h.locals, alike h.stack⟩, h.place⟩

theorem Value.Alike.owned {value : Value} (h : Value.Alike (diagonal own) value value) : value.Within own :=
  h.within.mono fun _ => And.right

theorem Frame.Matches.owned {frame : Frame} (h : Frame.Matches (.within program) (diagonal own) frame frame)
    {value : Value} (here : frame.Has value) : value.Within own := by
  rcases here with listed | listed | listed
  · exact (List.forall₂_same.1 h.args value listed).owned
  · exact (List.forall₂_same.1 h.locals value listed).owned
  · exact (List.forall₂_same.1 h.stack value listed).owned

theorem State.Owned.has {σ : Type} {state : State σ} (h : state.Owned program own) {value : Value}
    (here : state.Has value) :
    value.Within own := by
  rcases here with ⟨frame, listed, here⟩ | listed
  · exact (h.frames frame listed).owned here
  · exact h.statics value listed

theorem State.Owned.shows {σ : Type} {state : State σ} (h : state.Owned program own) {point : HookPoint}
    {value : Value} (shows : state.Shows point value) : value.Within own := by
  obtain ⟨frame, callers, instruction, type, rest, calls, _, _, popped⟩ := shows
  have here := (h.frames frame (calls ▸ List.mem_cons_self ..)).fetched.popHookCall type
  rw [popped] at here
  cases here with
  | ok same => exact same.2.1.owned

end Diagonal

/-- The objects and the static fields after a step. -/
def Step.memory {σ : Type} : Step σ → Memory
  | running state | halted _ state => state.memory

def Step.Owned {σ : Type} (program : Program) (own : Nat → Prop) : Step σ → Prop
  | running state => state.Owned program own
  | halted _ last => ∀ value ∈ last.memory.statics.values, value.Within own

/-- A step after which the program's objects are still apart from those that are kept. -/
def Step.Parts (program : Program) (own kept : Nat → Prop) (heap : Heap) (step : Step Recorder) : Prop :=
  ∃ own' kept', step.memory.heap.Split own' kept' ∧ heap.Keeps own kept step.memory.heap own' kept' ∧
    step.hookState.Apart own' kept' ∧ step.Owned program own'

namespace State

variable {program : Program} {limits : Limits} {own kept : Nat → Prop} {frame : Frame} {callers : List Frame}
  {memory : Memory} {recorder : Recorder}

/-- The hook keeps copies, and lets the program go on with its own value or with the override. -/
theorem observe_parts (here : Frame.Matches (.within program) (diagonal own) frame frame)
    (waiting : ∀ caller ∈ callers, Frame.Matches (.within program) (diagonal own) caller caller)
    (statics : ∀ value ∈ memory.statics.values, value.Within own) (split : memory.heap.Split own kept)
    (apart : recorder.Apart own kept) (type : ValueType) :
    (observe Recorder.hook type frame callers memory recorder).Parts program own kept memory.heap := by
  have popped := here.popHookCall type
  unfold observe
  generalize frame.popHookCall type = result at popped
  cases popped with
  | error => exact ⟨own, kept, split, .refl, apart, statics⟩
  | @ok seen _ same =>
    obtain ⟨⟨point, value⟩, rest⟩ := seen
    obtain ⟨_, alike, resting⟩ := same
    obtain ⟨kept', parted, keeps, records, answered⟩ := apart.hook split point alike.owned
    dsimp only
    generalize Recorder.hook point value recorder memory.heap = outcome at parted keeps records answered
    obtain ⟨answer, later, left⟩ := outcome
    cases answer with
    | error reason => exact ⟨own, kept', parted, keeps, records, statics⟩
    | ok result =>
      dsimp only
      split
      · have resumed := resting.push (answered result rfl).alike.box
        exact ⟨own, kept', parted, keeps, records, List.forall_mem_cons.2 ⟨resumed, waiting⟩, statics⟩
      · exact ⟨own, kept', parted, keeps, records, statics⟩

/-- Any other instruction reaches only what the program has at hand, as that goes on beside itself. -/
theorem dispatch_parts (here : Frame.Matches (.within program) (diagonal own) frame frame)
    (waiting : ∀ caller ∈ callers, Frame.Matches (.within program) (diagonal own) caller caller)
    (statics : ∀ value ∈ memory.statics.values, value.Within own) (split : memory.heap.Split own kept)
    (apart : recorder.Apart own kept) {opcode : Opcode} (unhooked : ∀ type, opcode ≠ .callHook type) :
    (dispatch program Recorder.hook limits opcode frame callers memory recorder).Parts program own kept
      memory.heap := by
  have memories : Memory.Paired (diagonal own) memory memory :=
    ⟨split.ownClosed.paired (Nat.le_refl _) fun _ _ => rfl, Table.alike_same.2 fun value listed =>
      (statics value listed).alike⟩
  have beside : Step.Beside program (fun _ _ => True) (fun _ (later _ : Recorder) => later = recorder)
      (diagonal own) memory.heap
      memory.heap (dispatch program Recorder.hook limits opcode frame callers memory recorder)
      (dispatch program Recorder.hook limits opcode frame callers memory recorder) := by
    refine dispatch_beside (fun _ _ => trivial) ?_ here (List.forall₂_same.2 waiting) memories unhooked
    exact fun _ => rfl
  generalize dispatch program Recorder.hook limits opcode frame callers memory recorder = next at beside
  cases beside with
  | running related evolves =>
    obtain ⟨parted, keeps⟩ := split.evolves related.memory.toPaired evolves
    refine ⟨_, kept, parted, keeps, ?_, fun frame listed => ?_, fun value listed => ?_⟩
    · rw [Step.hookState, related.hooks]
      exact apart.mono keeps.ownGrows
    · exact (List.forall₂_same.1 related.frames frame listed).onDiagonal
    · exact (Table.alike_same.1 related.memory.statics value listed).within
  | halted _ paired hooked evolves =>
    obtain ⟨parted, keeps⟩ := split.evolves paired.toPaired evolves
    refine ⟨_, kept, parted, keeps, ?_, fun value listed => ?_⟩
    · rw [Step.hookState, hooked]
      exact apart.mono keeps.ownGrows
    · exact (Table.alike_same.1 paired.statics value listed).within

/-- No step leads from the program's own objects to those that are kept from it. -/
theorem step_parts {state : State Recorder} (owned : state.Owned program own)
    (split : state.memory.heap.Split own kept) (apart : state.hookState.Apart own kept) :
    (step program Recorder.hook limits state).Parts program own kept state.memory.heap := by
  obtain ⟨frames, memory, recorder⟩ := state
  obtain ⟨calls, statics⟩ := owned
  cases frames with
  | nil => exact ⟨own, kept, split, .refl, apart, statics⟩
  | cons frame callers =>
    obtain ⟨here, waiting⟩ := List.forall_mem_cons.1 calls
    cases fetched : frame.method.code[frame.pointer]? with
    | none =>
      rw [step_of_fellOff fetched]
      exact ⟨own, kept, split, .refl, apart, statics⟩
    | some instruction =>
      rw [step_of_fetched fetched]
      by_cases hooking : ∃ type, instruction.opcode = .callHook type
      · obtain ⟨type, opcode⟩ := hooking
        rw [opcode]
        exact observe_parts here.fetched waiting statics split apart type
      · exact dispatch_parts here.fetched waiting statics split apart fun type opcode => hooking ⟨type, opcode⟩

/-- So none does in a whole run. -/
theorem advance_parts {state : State Recorder} (owned : state.Owned program own)
    (split : state.memory.heap.Split own kept) (apart : state.hookState.Apart own kept) (count : Nat) :
    (advance (step program Recorder.hook limits) count state).Parts program own kept state.memory.heap := by
  induction count generalizing state own kept with
  | zero => exact ⟨own, kept, split, .refl, apart, owned⟩
  | succ count ih =>
    have stepped : (step program Recorder.hook limits state).Parts program own kept state.memory.heap :=
      step_parts owned split apart
    rw [advance]
    generalize step program Recorder.hook limits state = next at stepped
    cases next with
    | halted result last => exact stepped
    | running later =>
      obtain ⟨own', kept', split', keeps, apart', owned'⟩ := stepped
      obtain ⟨own'', kept'', split'', onward, apart'', owned''⟩ := ih owned' split' apart'
      exact ⟨own'', kept'', split'', keeps.trans onward, apart'', owned''⟩

/-- Only a hook call changes the recorder and, unless it fails, it does what the hook does. -/
theorem dispatch_hookState_of_unhooked {σ : Type} {hook : Hook σ} {hookState : σ} {opcode : Opcode}
    (unhooked : ∀ type, opcode ≠ .callHook type) :
    (dispatch program hook limits opcode frame callers memory hookState).hookState = hookState := by
  have same : dispatch program hook limits opcode frame callers memory hookState =
      dispatch program passThrough limits opcode frame callers memory hookState := by
    cases opcode with
    | callHook type => exact absurd rfl (unhooked type)
    | _ => rfl
  rw [same]
  exact dispatch_hookState (P := (· = hookState)) (fun _ _ _ _ => id) opcode frame callers memory rfl

/-- What a hook call leaves is what the hook left: its own state and the heap. -/
theorem observe_after {σ : Type} (hook : Hook σ) (callers : List Frame) (memory : Memory) (hookState : σ)
    {type : ValueType} {point : HookPoint} {value : Value} {rest : Frame}
    (popped : frame.popHookCall type = .ok ((point, value), rest)) :
    (observe hook type frame callers memory hookState).hookState = (hook point value hookState memory.heap).2.1 ∧
      (observe hook type frame callers memory hookState).memory.heap =
        (hook point value hookState memory.heap).2.2 := by
  simp only [observe, popped]
  generalize hook point value hookState memory.heap = outcome
  obtain ⟨answer, later, left⟩ := outcome
  cases answer with
  | error reason => exact ⟨rfl, rfl⟩
  | ok result =>
    dsimp only
    split <;> exact ⟨rfl, rfl⟩

/-- A step lists nothing new but a copy of what it shows to the hook. -/
theorem step_records {state : State Recorder} {seen : Value}
    (recorded : (step program Recorder.hook limits state).hookState.Records seen) : state.hookState.Records seen ∨
      ∃ point value, state.Shows point value ∧ seen = (state.memory.heap.copy value).1 ∧
        (step program Recorder.hook limits state).memory.heap = (state.memory.heap.copy value).2 := by
  obtain ⟨frames, memory, recorder⟩ := state
  cases frames with
  | nil => exact Or.inl recorded
  | cons frame callers =>
    cases fetched : frame.method.code[frame.pointer]? with
    | none =>
      rw [step_of_fellOff fetched] at recorded
      exact Or.inl recorded
    | some instruction =>
      rw [step_of_fetched fetched] at recorded ⊢
      by_cases hooking : ∃ type, instruction.opcode = .callHook type
      · obtain ⟨type, opcode⟩ := hooking
        rw [opcode, dispatch] at recorded ⊢
        cases popped : { frame with pointer := frame.pointer + 1 }.popHookCall type with
        | error failure =>
          rw [observe, popped] at recorded
          exact Or.inl recorded
        | ok shown =>
          obtain ⟨⟨point, value⟩, rest⟩ := shown
          obtain ⟨after, left⟩ := observe_after Recorder.hook callers memory recorder popped
          rw [after] at recorded
          rw [left]
          rcases Recorder.records_hook recorded with earlier | ⟨copied, heap⟩
          · exact Or.inl earlier
          · exact Or.inr
              ⟨point, value, ⟨frame, callers, instruction, type, rest, rfl, fetched, opcode, popped⟩, copied, heap⟩
      · rw [dispatch_hookState_of_unhooked fun type opcode => hooking ⟨type, opcode⟩] at recorded
        exact Or.inl recorded

end State

end Faultline
