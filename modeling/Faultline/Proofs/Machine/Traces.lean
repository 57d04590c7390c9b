import Faultline.Proofs.Code.Locations
import Faultline.Proofs.Machine.Calls

namespace Faultline

def Method.opcodeAt? (method : Method) (index : Nat) : Option Opcode := method.code[index]?.map (·.opcode)

/-- The call waits, behind an instruction that calls it, for a method to return. -/
def Frame.Awaits (program : Program) (callee : Method) (frame : Frame) : Prop :=
  ∃ index name, frame.pointer = index + 1 ∧ frame.method.opcodeAt? index = some (.call name) ∧
    program.method name = .ok callee

/-- Calls in progress, each waiting for the one before it, and the last of them a call of the method that was
invoked. -/
inductive Program.Nested (program : Program) (invoked : Method) : List Frame → Prop
  | outermost {frame : Frame} (entry : frame.method = invoked) : Nested program invoked [frame]
  | inner {frame caller : Frame} {rest : List Frame} (awaits : caller.Awaits program frame.method)
      (outer : Nested program invoked (caller :: rest)) : Nested program invoked (frame :: caller :: rest)

/-- The calls that a trace shows, innermost first: from an instruction that throws out to the method that was
invoked, each caller at an instruction that calls the method before it. -/
structure Program.CallChain (program : Program) (invoked : Method) (calls : List (Method × StackFrame)) : Prop where
  described : ∀ call ∈ calls, call.2.method = call.1.qualifiedName ∧
    NearestLocation call.1.code call.2.instruction call.2.location
  innermost : ∃ call, calls.head? = some call ∧ call.1.opcodeAt? call.2.instruction = some .throw
  linked : calls.IsChain fun callee caller =>
    ∃ name, caller.1.opcodeAt? caller.2.instruction = some (.call name) ∧ program.method name = .ok callee.1
  outermost : ∃ entry, calls.getLast? = some (invoked, entry)

section Chains

variable {σ : Type} {program : Program} {hook : Hook σ} {limits : Limits} {invoked : Method} {frame next : Frame}
  {callers frames : List Frame}

theorem Program.Nested.of_same (h : program.Nested invoked (frame :: callers)) (same : next.method = frame.method) :
    program.Nested invoked (next :: callers) := by
  cases h with
  | outermost entry => exact .outermost (same.trans entry)
  | inner awaits outer => exact .inner (same ▸ awaits) outer

theorem Program.Nested.outer {caller : Frame} {rest : List Frame}
    (h : program.Nested invoked (frame :: caller :: rest)) :
    program.Nested invoked (caller :: rest) := by
  cases h with
  | inner awaits outer => exact outer

/-- A step that leaves calls nested, or ends with an exception only at an instruction that throws, with all
calls in its trace. -/
inductive Step.Traced (program : Program) (invoked : Method) : Step σ → Prop
  | running {state : State σ} (nested : program.Nested invoked state.frames) : Traced program invoked (.running state)
  | raised {frame : Frame} {callers : List Frame} (nested : program.Nested invoked (frame :: callers))
      (throws : frame.method.opcodeAt? frame.current = some .throw) (text : String) (memory : Memory)
      (hookState : σ) :
      Traced program invoked
        (.halted (.error (.thrown text ((frame :: callers).map Frame.describe)))
          ⟨frame :: callers, memory, hookState⟩)
  | halted {result : Except RuntimeError (Option Value)}
      (calm : ∀ text trace, result ≠ .error (.thrown text trace)) (state : State σ) :
      Traced program invoked (.halted result state)

/-- One step keeps every frame below the first waiting at the call that entered the one above it, and a
failure describes these frames. -/
theorem State.step_traced {state : State σ} (nested : program.Nested invoked state.frames) :
    (step program hook limits state).Traced program invoked := by
  obtain ⟨frames, memory, hookState⟩ := state
  cases frames with
  | nil => cases nested
  | cons frame callers =>
    have follows : (step program hook limits ⟨frame :: callers, memory, hookState⟩).Follows program limits
      (frame.method.code[frame.pointer]?.map (·.opcode)) { frame with pointer := frame.pointer + 1 }
      callers := step_follows ..
    generalize step program hook limits ⟨frame :: callers, memory, hookState⟩ = next at follows
    cases follows with
    | stays same => exact .running (nested.of_same same)
    | enters call found same behind =>
      refine .running (.inner ⟨frame.pointer, _, behind, ?_, found⟩ (nested.of_same same))
      rw [same]
      exact call
    | leaves waiting same =>
      subst waiting
      exact .running (nested.outer.of_same same)
    | returns =>
      refine .halted ?_ _
      rintro text trace ⟨⟩
    | raises throw text =>
      generalize moved : ({ frame with pointer := frame.pointer + 1 } : Frame) = raiser
      have same : raiser.method = frame.method := moved ▸ rfl
      have throws : raiser.method.opcodeAt? raiser.current = some .throw := moved ▸ throw
      have nested : program.Nested invoked (raiser :: callers) := nested.of_same same
      exact .raised nested throws text _ _
    | overflows =>
      refine .halted ?_ _
      rintro text trace ⟨⟩
    | fails broken =>
      refine .halted ?_ _
      rintro text trace ⟨⟩
      cases broken

/-- The frames stay nested, and a failure traced, over any number of steps. -/
theorem State.advance_traced {state : State σ} (nested : program.Nested invoked state.frames) (count : Nat) :
    (advance (step program hook limits) count state).Traced program invoked := by
  induction count generalizing state with
  | zero => exact .running nested
  | succ count ih =>
    have stepped : (step program hook limits state).Traced program invoked := step_traced nested
    rw [advance]
    generalize step program hook limits state = next at stepped
    cases stepped with
    | running later => exact ih later
    | raised later throws text => exact .raised later throws text _ _
    | halted calm last => exact .halted calm last

/-- In nested frames every frame is of the method that the call of the next one resolves to. -/
theorem Program.Nested.linked (h : program.Nested invoked frames) :
    (frames.map fun frame => (frame.method, frame.describe)).IsChain fun callee caller =>
      ∃ name, caller.1.opcodeAt? caller.2.instruction = some (.call name) ∧ program.method name = .ok callee.1 := by
  induction h with
  | outermost entry => exact .singleton _
  | @inner frame caller rest awaits outer ih =>
    obtain ⟨index, name, pointer, calls, found⟩ := awaits
    have here : caller.current = index := by rw [Frame.current, pointer, Nat.add_sub_cancel]
    have link : caller.method.opcodeAt? caller.describe.instruction = some (.call name) := by
      rw [Frame.describe, here, calls]
    exact List.isChain_cons_cons.2 ⟨⟨name, link, found⟩, ih⟩

theorem Program.Nested.outermost_eq (h : program.Nested invoked frames) :
    ∃ entry, (frames.map fun frame => (frame.method, frame.describe)).getLast? = some (invoked, entry) := by
  induction h with
  | @outermost frame entry => exact ⟨frame.describe, by rw [← entry]; rfl⟩
  | inner awaits outer ih =>
    obtain ⟨entry, last⟩ := ih
    rw [List.map_cons] at last
    exact ⟨entry, by rw [List.map_cons, List.map_cons, List.getLast?_cons_cons, last]⟩

/-- A trace shows nested calls as they are. -/
theorem Program.Nested.callChain (h : program.Nested invoked (frame :: callers))
    (throws : frame.method.opcodeAt? frame.current = some .throw) :
    program.CallChain invoked ((frame :: callers).map fun frame => (frame.method, frame.describe)) := by
  refine ⟨fun call among => ?_, ⟨_, rfl, throws⟩, h.linked, h.outermost_eq⟩
  obtain ⟨frame, _, rfl⟩ := List.mem_map.1 among
  exact ⟨rfl, nearestLocation_locationAt _ _⟩

end Chains

/-- The trace of an exception is the chain of calls that led to it, no longer than calls may be nested. -/
theorem Machine.thrown_callChain {σ : Type} (machine : Machine) (hook : Hook σ) (hookState : σ)
    (name : Member) (args : List Value) {text : String} {trace : List StackFrame}
    (thrown : (machine.invoke hook hookState name args).1 = .error (.thrown text trace)) :
    trace.length ≤ machine.limits.depth ∧ ∃ invoked calls, machine.program.method name = .ok invoked ∧
      trace = calls.map (·.2) ∧ machine.program.CallChain invoked calls := by
  obtain ⟨program, limits, memory, steps⟩ := machine
  rcases answer : (⟨program, limits, memory, steps⟩ : Machine).invoke hook hookState name args
    with ⟨result, machine, hookState'⟩
  rw [answer] at thrown
  cases thrown
  have ends := Machine.invoke_ends_within answer nofun
  generalize same : (⟨.error (.thrown text trace), machine.memory, hookState'⟩ : Outcome σ) = outcome at ends
  cases ends with
  | refused refused =>
    cases same
    rcases Program.enter_eq_error refused with full | broken
    · cases full
    · cases broken
  | ran entered halts =>
    obtain ⟨count, halted⟩ := halts
    cases congrArg Outcome.result same
    obtain ⟨invoked, found, rfl, room⟩ := Program.enter_eq_ok entered
    let start : State σ := ⟨[Frame.enter invoked args], memory, hookState⟩
    have nested : program.Nested invoked start.frames := .outermost rfl
    have room : start.frames.length ≤ limits.depth := room
    have traced : (State.advance (State.step program hook limits) count start).Traced program invoked :=
      State.advance_traced nested count
    have roomy : (State.advance (State.step program hook limits) count start).Roomy limits :=
      State.advance_roomy room count
    rw [halted] at traced roomy
    cases traced with
    | @raised frame callers nested throws =>
      have within : (frame :: callers).length ≤ limits.depth := roomy.room
      have shows : (frame :: callers).map Frame.describe =
          ((frame :: callers).map fun frame => (frame.method, frame.describe)).map (·.2) := by
        rw [List.map_map]
        rfl
      exact ⟨by rwa [List.length_map], invoked, _, found, shows, nested.callChain throws⟩
    | halted calm => cases calm _ _ rfl

/-- A module with a method that throws, behind code without source text, and one that calls it. -/
def throwingModule : Module :=
  let source (line : UInt32) : Option Location := some ⟨"deep.src", line, line, 1, 8⟩
  let method (name : String) (body : Array Instruction) : Method :=
    { owner := "Deep", name, isStatic := true, params := [], locals := [], returns := none, attributes := [],
      body := some body }
  { name := "Deep", optimized := false, debugInfo := .full, metadata := .empty, classes := [], sites := []
    methods := [
      method "calls" #[⟨.nop, source 5⟩, ⟨.call ⟨"Deep", "throws"⟩, none⟩, ⟨.return, none⟩],
      method "throws" #[⟨.loadString "deep", source 20⟩, ⟨.throw, source Location.hiddenLine⟩]] }

/-- A call that throws where its own location is hidden, and a caller whose own is missing. -/
theorem Machine.thrown_callChain_throwing : ∃ program, Program.link [throwingModule] = .ok program ∧
    let machine : Machine := ⟨program, ⟨none, 2⟩, ⟨.empty, .empty⟩, 0⟩
    let trace : List StackFrame :=
      [⟨"Deep::throws", 1, some ⟨"deep.src", 20, 20, 1, 8⟩⟩, ⟨"Deep::calls", 1, some ⟨"deep.src", 5, 5, 1, 8⟩⟩]
    (machine.invoke passThrough () ⟨"Deep", "calls"⟩ []).1 = .error (.thrown "deep" trace) ∧ trace.length ≤ 2 ∧
      ∃ invoked calls, program.method ⟨"Deep", "calls"⟩ = .ok invoked ∧ trace = calls.map (·.2) ∧
      program.CallChain invoked calls := by
  obtain ⟨program, linked, thrown⟩ : ∃ program, Program.link [throwingModule] = .ok program ∧
      ((⟨program, ⟨none, 2⟩, ⟨.empty, .empty⟩, 0⟩ : Machine).invoke passThrough () ⟨"Deep", "calls"⟩ []).1 =
        .error (.thrown "deep" [⟨"Deep::throws", 1, some ⟨"deep.src", 20, 20, 1, 8⟩⟩,
          ⟨"Deep::calls", 1, some ⟨"deep.src", 5, 5, 1, 8⟩⟩]) := ⟨_, rfl, rfl⟩
  exact ⟨program, linked, thrown, thrown_callChain _ passThrough () ⟨"Deep", "calls"⟩ [] thrown⟩

end Faultline
