import Faultline.Proofs.Machine.Dispatched
import Faultline.Proofs.Value.Evolution

namespace Faultline

/-- Memories of which the paired objects and the static fields are alike. -/
structure Memory.Paired (pairing : Nat → Nat → Prop) (memory memory' : Memory) : Prop
    extends Heap.Paired pairing memory.heap memory'.heap where
  statics : Table.Alike (Value.Alike pairing) memory.statics memory'.statics

namespace Memory.Paired

variable {pairing : Nat → Nat → Prop} {memory memory' : Memory}

theorem alike (h : Memory.Paired pairing memory memory') : Memory.Alike pairing memory memory' :=
  ⟨h.toPaired.toAlike, h.statics⟩

/-- A new object on either side extends the pairing by the two new ids. -/
theorem create (h : Memory.Paired pairing memory memory') (className : String) {fields : Fields}
    (own : ∀ pairing, Fields.Alike pairing fields fields) :
    Memory.Paired (fun a b => pairing a b ∨ (a = memory.heap.size ∧ b = memory'.heap.size))
      (memory.perform (.create className fields)) (memory'.perform (.create className fields)) := by
  refine ⟨⟨⟨?_, ?_⟩, ?_⟩, h.statics.mono fun _ _ same => same.mono fun _ _ => Or.inl⟩
  · rintro a b a' b' (paired | ⟨rfl, rfl⟩) (paired' | ⟨rfl, rfl⟩)
    · exact h.oneToOne paired paired'
    · have inside := h.inside a b paired
      omega
    · have inside := h.inside a' b' paired'
      omega
    · simp
  · rintro a b (paired | ⟨rfl, rfl⟩)
    · have inside := h.inside a b paired
      simp only [Memory.perform, Heap.fields_alloc, if_neg (Nat.ne_of_lt inside.1), if_neg (Nat.ne_of_lt inside.2)]
      exact (h.fields a b paired).mono fun _ _ same => same.mono fun _ _ => Or.inl
    · simp only [Memory.perform, Heap.fields_alloc, if_true]
      exact own _
  · rintro a b (paired | ⟨rfl, rfl⟩)
    · have inside := h.inside a b paired
      simp only [Memory.perform, Heap.size_alloc]
      omega
    · simp only [Memory.perform, Heap.size_alloc]
      omega

/-- Alike contents written to paired objects keep two memories paired. -/
theorem setField (h : Memory.Paired pairing memory memory') {reference reference' : Reference} (name : String)
    {value value' : Value} (owner : Reference.Paired pairing reference reference')
    (content : Value.Alike pairing value value') :
    Memory.Paired pairing (memory.perform (.setField reference name value))
      (memory'.perform (.setField reference' name value')) := by
  refine ⟨⟨⟨h.oneToOne, ?_⟩, ?_⟩, h.statics⟩
  · intro a b paired
    have inside := h.inside a b paired
    simp only [Memory.perform, Heap.fields_setField, inside.1, inside.2, and_true, h.oneToOne owner.1 paired]
    split
    · exact (h.fields a b paired).insert name content
    · exact h.fields a b paired
  · intro a b paired
    simp only [Memory.perform, Heap.size_setField]
    exact h.inside a b paired

/-- The same change on both sides keeps the memories alike, and reaches paired objects only. -/
theorem perform (h : Memory.Paired pairing memory memory') {effect effect' : Memory.Effect}
    (effects : Memory.Effect.Alike pairing effect effect') :
    Memory.Paired (effect.grow pairing memory.heap memory'.heap) (memory.perform effect) (memory'.perform effect') ∧
      Heap.Evolves pairing memory.heap memory'.heap (effect.grow pairing memory.heap memory'.heap)
        (memory.perform effect).heap (memory'.perform effect').heap := by
  cases effects with
  | none => exact ⟨h, .refl⟩
  | create className own =>
    refine ⟨h.create className own, fun _ _ => Or.inl, ?_, .alloc className _, .alloc className _⟩
    rintro a b (paired | ⟨rfl, rfl⟩)
    · exact Or.inl paired
    · exact Or.inr ⟨Nat.le_refl _, Nat.le_refl _⟩
  | setField name owner content =>
    exact ⟨h.setField name owner content, fun _ _ => id, fun _ _ => Or.inl, .setField name _ ⟨_, owner.1⟩,
      .setField name _ ⟨_, owner.1⟩⟩
  | setStatic field content =>
    exact ⟨⟨h.toPaired, h.statics.insert field content⟩, .refl⟩

end Memory.Paired

/-- A program beside itself, in calls of methods that it declares. -/
def Matching.within (program : Program) : Matching where
  place method pointer method' pointer' := (method' = method ∧ pointer' = pointer) ∧ program.Declares method
  failure error error' := error' = error ∧ error.isOfHook = false
  name_eq := fun ⟨⟨same, _⟩, _⟩ => by rw [same]
  returns_eq := fun ⟨⟨same, _⟩, _⟩ => by rw [same]
  plain _ plain := ⟨rfl, RuntimeError.isOfHook_of_isPlain plain⟩
  underflow := fun ⟨⟨same, samePointer⟩, _⟩ => by rw [same, samePointer]; exact ⟨rfl, rfl⟩
  thrown text places := by
    refine ⟨?_, rfl⟩
    congr 1
    induction places with
    | nil => rfl
    | cons here _ ih => simp only [List.map_cons, ih, Frame.describe, Frame.current, here.1.1, here.1.2]

def Comparison.within (program : Program) (pairing : Nat → Nat → Prop) : Comparison where
  matching := .within program
  pairing
  methods method method' := method' = method ∧ program.Declares method
  waits := Frame.Matches (.within program) pairing
  interface := by
    rintro _ _ ⟨rfl, _⟩
    exact .refl _
  placed := id
  pushed h alike := h.push alike

theorem Program.declares_of_method {program : Program} {name : Member} {method : Method}
    (found : program.method name = .ok method) : program.Declares method := by
  rw [Program.method_eq_ok_iff] at found
  obtain ⟨module, listed, here⟩ := List.exists_of_findSome?_eq_some found
  exact ⟨module, listed, List.mem_of_find?_eq_some here⟩

/-- A program corresponds to itself. -/
theorem Program.matches_self (program : Program) :
    Program.Matches (fun method method' => method' = method ∧ program.Declares method) program program := by
  refine ⟨fun _ => rfl, fun name => ?_⟩
  cases found : program.method name with
  | error failure => exact .error ⟨rfl, Program.plain_of_method found⟩
  | ok method => exact .ok ⟨rfl, Program.declares_of_method found⟩

section Steps

variable {σ τ : Type}

/-- States of one program beside each other, with a relation of the hook states that is given. -/
structure State.Beside (program : Program) (hooks : (Nat → Nat → Prop) → σ → τ → Prop) (pairing : Nat → Nat → Prop)
    (state : State σ) (state' : State τ) : Prop where
  frames : List.Forall₂ (Frame.Matches (.within program) pairing) state.frames state'.frames
  memory : Memory.Paired pairing state.memory state'.memory
  hooks : hooks pairing state.hookState state'.hookState

/-- Steps that from paired heaps lead to states beside each other, or to the same end. -/
inductive Step.Beside (program : Program) (failures : RuntimeError → RuntimeError → Prop)
    (hooks : (Nat → Nat → Prop) → σ → τ → Prop) (pairing : Nat → Nat → Prop)
    (heap heap' : Heap) : Step σ → Step τ → Prop
  | running {grown : Nat → Nat → Prop} {state : State σ} {state' : State τ}
      (related : State.Beside program hooks grown state state')
      (evolves : Heap.Evolves pairing heap heap' grown state.memory.heap state'.memory.heap) :
      Beside program failures hooks pairing heap heap' (.running state) (.running state')
  | halted {grown : Nat → Nat → Prop} {result result' : Except RuntimeError (Option Value)} {last : State σ}
      {last' : State τ} (same : Agree failures (Option.Rel (Value.Alike grown)) result result')
      (memory : Memory.Paired grown last.memory last'.memory) (hooked : hooks grown last.hookState last'.hookState)
      (evolves : Heap.Evolves pairing heap heap' grown last.memory.heap last'.memory.heap) :
      Beside program failures hooks pairing heap heap' (.halted result last) (.halted result' last')

variable {program : Program} {failures : RuntimeError → RuntimeError → Prop}
  {hooks : (Nat → Nat → Prop) → σ → τ → Prop} {pairing : Nat → Nat → Prop} {hook : Hook σ} {hook' : Hook τ}
  {limits : Limits} {frame frame' : Frame} {callers callers' : List Frame} {memory memory' : Memory}
  {hookState : σ} {hookState' : τ}

theorem Frame.Matches.fetched (h : Frame.Matches (.within program) pairing frame frame') :
    Frame.Matches (.within program) pairing { frame with pointer := frame.pointer + 1 }
      { frame' with pointer := frame'.pointer + 1 } :=
  ⟨⟨h.args, h.locals, h.stack⟩, ⟨h.place.1.1, congrArg (· + 1) h.place.1.2⟩, h.place.2⟩

/-- An instruction other than a hook call keeps the states beside each other. -/
theorem State.dispatch_beside (failing : ∀ error : RuntimeError, error.isOfHook = false → failures error error)
    (growing : ∀ {grown}, (∀ a b, pairing a b → grown a b) → hooks grown hookState hookState')
    (here : Frame.Matches (.within program) pairing frame frame')
    (waiting : List.Forall₂ (Frame.Matches (.within program) pairing) callers callers')
    (memories : Memory.Paired pairing memory memory') {opcode : Opcode} (unhooked : ∀ type, opcode ≠ .callHook type) :
    Step.Beside program failures hooks pairing memory.heap memory'.heap
      (State.dispatch program hook limits opcode frame callers memory hookState)
      (State.dispatch program hook' limits opcode frame' callers' memory' hookState') := by
  have dispatched : (Comparison.within program pairing).Dispatched (fun target => target) frame frame' callers
      callers' memory memory' hookState
      hookState' (State.dispatch program hook limits opcode frame callers memory hookState)
      (State.dispatch program hook' limits (opcode.mapTarget fun target => target) frame' callers'
        memory' hookState') :=
    Comparison.dispatch program.matches_self memories.alike here waiting unhooked
  rw [Opcode.mapTarget_id] at dispatched
  have same := growing fun _ _ => id
  generalize State.dispatch program hook limits opcode frame callers memory hookState = step at dispatched
  generalize State.dispatch program hook' limits opcode frame' callers' memory' hookState' = step' at dispatched
  cases dispatched with
  | failed related frames frames' =>
    obtain ⟨rfl, own⟩ := related
    exact .halted (.error (failing _ own)) memories same .refl
  | ended related frames frames' => exact .halted (.ok related) memories same .refl
  | returned resumed waiting => exact .running ⟨.cons resumed waiting, memories, same⟩ .refl
  | @called method method' args args' caller caller' related alike resting =>
    obtain ⟨rfl, declared⟩ := related
    have entered : Frame.Matches (.within program) pairing (Frame.enter method' args) (Frame.enter method' args') :=
      ⟨(Method.SameInterface.refl method').enter alike, ⟨rfl, rfl⟩, declared⟩
    exact .running ⟨.cons entered (.cons ⟨resting.toAlike, resting.place.1⟩ waiting), memories, same⟩ .refl
  | @jumped next next' target resting =>
    have landed : Frame.Matches (.within program) pairing { next with pointer := target }
        { next' with pointer := target } :=
      ⟨⟨resting.args, resting.locals, resting.stack⟩, ⟨resting.place.1.1.1, rfl⟩, resting.place.1.2⟩
    exact .running ⟨.cons landed waiting, memories, same⟩ .refl
  | @passed next next' effect effect' effects resting =>
    obtain ⟨performed, evolves⟩ := memories.perform effects
    refine .running ⟨.cons ⟨resting.toAlike, resting.place.1⟩ (waiting.imp fun _ _ h => h.mono evolves.more),
      performed, growing evolves.more⟩ evolves

/-- What holds of steps that stay beside each other, and of those that reach the hook, holds of every step. -/
theorem State.step_cases {P : Step σ → Step τ → Prop}
    (beside : ∀ {step step'}, Step.Beside program failures hooks pairing memory.heap memory'.heap step step' →
      P step step')
    (failing : ∀ error : RuntimeError, error.isOfHook = false → failures error error)
    (growing : ∀ {grown}, (∀ a b, pairing a b → grown a b) → hooks grown hookState hookState')
    {frames frames' : List Frame}
    (calls : List.Forall₂ (Frame.Matches (.within program) pairing) frames frames')
    (memories : Memory.Paired pairing memory memory')
    (shown : ∀ {frame frame' callers callers' instruction type}, program.Declares frame.method →
      instruction ∈ frame.method.code →
      instruction.opcode = .callHook type → Frame.Matches (.within program) pairing frame frame' →
      List.Forall₂ (Frame.Matches (.within program) pairing) callers callers' →
      P (State.observe hook type frame callers memory hookState)
        (State.observe hook' type frame' callers' memory' hookState')) :
    P (State.step program hook limits ⟨frames, memory, hookState⟩)
      (State.step program hook' limits ⟨frames', memory', hookState'⟩) := by
  have same := growing fun _ _ => id
  cases calls with
  | nil => exact beside (.halted (.error (failing _ rfl)) memories same .refl)
  | @cons frame frame' callers callers' here waiting =>
    obtain ⟨⟨sameMethod, samePointer⟩, declared⟩ := here.place
    cases fetched : frame.method.code[frame.pointer]? with
    | none =>
      rw [State.step_of_fellOff fetched, State.step_of_fellOff (by rw [sameMethod, samePointer, fetched]), sameMethod]
      exact beside (.halted (.error (failing _ rfl)) memories same .refl)
    | some instruction =>
      rw [State.step_of_fetched fetched, State.step_of_fetched (by rw [sameMethod, samePointer, fetched])]
      by_cases hooking : ∃ type, instruction.opcode = .callHook type
      · obtain ⟨type, opcode⟩ := hooking
        rw [opcode]
        exact shown declared (Array.mem_of_getElem? fetched) opcode here.fetched waiting
      · exact beside (State.dispatch_beside failing growing here.fetched waiting memories
          fun type opcode => hooking ⟨type, opcode⟩)

/-- So every step keeps the states beside each other, if those that reach the hook do. -/
theorem State.step_beside (failing : ∀ error : RuntimeError, error.isOfHook = false → failures error error)
    (growing : ∀ {grown}, (∀ a b, pairing a b → grown a b) → hooks grown hookState hookState')
    {frames frames' : List Frame}
    (calls : List.Forall₂ (Frame.Matches (.within program) pairing) frames frames')
    (memories : Memory.Paired pairing memory memory')
    (shown : ∀ {frame frame' callers callers' instruction type}, program.Declares frame.method →
      instruction ∈ frame.method.code →
      instruction.opcode = .callHook type → Frame.Matches (.within program) pairing frame frame' →
      List.Forall₂ (Frame.Matches (.within program) pairing) callers callers' →
      Step.Beside program failures hooks pairing memory.heap memory'.heap
        (State.observe hook type frame callers memory hookState)
        (State.observe hook' type frame' callers' memory' hookState')) :
    Step.Beside program failures hooks pairing memory.heap memory'.heap
      (State.step program hook limits ⟨frames, memory, hookState⟩)
      (State.step program hook' limits ⟨frames', memory', hookState'⟩) :=
  State.step_cases id failing growing calls memories shown

/-- A call without arguments starts in the same way, whatever the objects. -/
theorem Program.enter_beside {method : Member} {frames : List Frame}
    (entered : program.enter limits method [] = .ok frames) :
    List.Forall₂ (Frame.Matches (.within program) pairing) frames frames := by
  unfold Program.enter at entered
  cases found : program.method method with
  | error failure => rw [found] at entered; cases entered
  | ok declared =>
    rw [found] at entered
    change enterCall limits declared [] [] = _ at entered
    have arguments : List.Forall₂ (Value.Alike pairing) [] [] := .nil
    have same := (Method.SameInterface.refl declared).enterCall arguments limits (rfl : ([] : List Frame).length = _)
    rw [entered] at same
    cases same with
    | ok calls =>
      obtain ⟨rfl, _⟩ := calls
      exact .cons ⟨(Method.SameInterface.refl declared).enter arguments, ⟨rfl, rfl⟩,
        Program.declares_of_method found⟩ .nil

/-- The ends of two runs that went on beside each other from paired heaps. -/
structure Outcome.Beside (hooks : (Nat → Nat → Prop) → σ → τ → Prop) (pairing : Nat → Nat → Prop) (heap heap' : Heap)
    (grown : Nat → Nat → Prop) (outcome : Outcome σ) (outcome' : Outcome τ) : Prop where
  result : Agree Eq (Option.Rel (Value.Alike grown)) outcome.result outcome'.result
  memory : Memory.Paired grown outcome.memory outcome'.memory
  hooked : hooks grown outcome.hookState outcome'.hookState
  evolves : Heap.Evolves pairing heap heap' grown outcome.memory.heap outcome'.memory.heap

theorem Outcome.Beside.after {outcome : Outcome σ} {outcome' : Outcome τ} {middle grown : Nat → Nat → Prop}
    {heap heap' later later' : Heap} (h : Outcome.Beside hooks middle later later' grown outcome outcome')
    (first : Heap.Evolves pairing heap heap' middle later later') :
    Outcome.Beside hooks pairing heap heap' grown outcome outcome' :=
  ⟨h.result, h.memory, h.hooked, first.trans h.evolves⟩

/-- Runs of states beside each other use up the same number of steps and end in the same way. -/
theorem State.run_beside
    (square : ∀ {pairing} {state : State σ} {state' : State τ}, State.Beside program hooks pairing state state' →
      Step.Beside program Eq hooks pairing state.memory.heap state'.memory.heap (State.step program hook limits state)
        (State.step program hook' limits state'))
    (limit : UInt64) (count : Nat) {state : State σ} {state' : State τ}
    (related : State.Beside program hooks pairing state state') :
    ∃ left result result', ∃ (last : State σ) (last' : State τ), ∃ grown,
      State.run program hook limits limit count state = (result, left, last) ∧
      State.run program hook' limits limit count state' = (result', left, last') ∧
      Outcome.Beside hooks pairing state.memory.heap state'.memory.heap grown ⟨result, last.memory, last.hookState⟩
        ⟨result', last'.memory, last'.hookState⟩ := by
  induction count generalizing pairing state state' with
  | zero => exact ⟨0, _, _, state, state', pairing, rfl, rfl, .error rfl, related.memory, related.hooks, .refl⟩
  | succ count ih =>
    have stepped := square related
    simp only [State.run]
    generalize State.step program hook limits state = step at stepped
    generalize State.step program hook' limits state' = step' at stepped
    cases stepped with
    | halted same memory hooked evolves => exact ⟨count, _, _, _, _, _, rfl, rfl, same, memory, hooked, evolves⟩
    | running onward evolves =>
      obtain ⟨left, result, result', last, last', grown, run, run', ends⟩ := ih onward
      exact ⟨left, result, result', last, last', grown, run, run', ends.after evolves⟩

/-- So do calls from outside of one method without arguments. -/
theorem Machine.invoke_beside (limits : Limits)
    (square : ∀ {pairing} {state : State σ} {state' : State τ}, State.Beside program hooks pairing state state' →
      Step.Beside program Eq hooks pairing state.memory.heap state'.memory.heap (State.step program hook limits state)
        (State.step program hook' limits state'))
    (memories : Memory.Paired pairing memory memory') (hooked : hooks pairing hookState hookState') {method : Member}
    {target : Method} (found : program.method method = .ok target) (steps steps' : Nat) :
    ∃ count, ∃ (outcome : Outcome σ) (outcome' : Outcome τ), ∃ grown,
      (⟨program, limits, memory, steps⟩ : Machine).invoke hook hookState method [] =
        (outcome.result, ⟨program, limits, outcome.memory, count⟩, outcome.hookState) ∧
      (⟨program, limits, memory', steps'⟩ : Machine).invoke hook' hookState' method [] =
        (outcome'.result, ⟨program, limits, outcome'.memory, count⟩, outcome'.hookState) ∧
      Outcome.Beside hooks pairing memory.heap memory'.heap grown outcome outcome' := by
  have entering : program.enter limits method [] = enterCall limits target [] [] := by
    simp only [Program.enter, found]
    rfl
  unfold Machine.invoke
  simp only [found]
  cases entered : enterCall limits target [] [] with
  | error failure =>
    exact ⟨0, ⟨.error failure, memory, hookState⟩, ⟨.error failure, memory', hookState'⟩, pairing, rfl, rfl,
      .error rfl, memories, hooked, .refl⟩
  | ok frames =>
    have start : State.Beside program hooks pairing ⟨frames, memory, hookState⟩ ⟨frames, memory', hookState'⟩ :=
      ⟨Program.enter_beside (entering.trans entered), memories, hooked⟩
    obtain ⟨left, result, result', last, last', grown, run, run', ends⟩ :=
      State.run_beside square (limits.steps.getD 0xFFFFFFFFFFFFFFFF)
        (limits.steps.getD 0xFFFFFFFFFFFFFFFF).toNat start
    simp only [run, run']
    exact ⟨_, ⟨result, last.memory, last.hookState⟩, ⟨result', last'.memory, last'.hookState⟩, grown, rfl, rfl, ends⟩

end Steps

end Faultline
