import Faultline.Machine.Execute
import Faultline.Machine.Hook

namespace Faultline

/-- The most instructions an invocation may execute, and the most calls that may be in progress. -/
structure Limits where
  steps : Option UInt64 := none
  depth : Nat := 512
deriving DecidableEq

/-- An invocation in progress, its calls innermost first. -/
structure State (σ : Type) where
  frames : List Frame
  memory : Memory
  hookState : σ

inductive Step (σ : Type) where
  | running (state : State σ)
  | halted (result : Except RuntimeError (Option Value)) (state : State σ)

/-- The calls in progress after one more. -/
def enterCall (limits : Limits) (method : Method) (args : List Value) (frames : List Frame) :
    Except RuntimeError (List Frame) :=
  if method.body.isNone then .error (.noBody method.qualifiedName)
  else if args.length != method.argCount then
    .error (.argumentCount method.qualifiedName method.argCount args.length)
  else if limits.depth ≤ frames.length then .error (.stackOverflow frames.length)
  else .ok (Frame.enter method args :: frames)

namespace State

variable {σ : Type}

/-- Leaves a call, handing its result to the caller. -/
def leaveCall (frame : Frame) (callers : List Frame) (memory : Memory) (hookState : σ) : Step σ :=
  let result := if frame.method.returns.isSome then (fun popped => some popped.1) <$> frame.pop else .ok none
  match result, callers with
  | .error failure, _ => .halted (.error failure) ⟨frame :: callers, memory, hookState⟩
  | .ok result, [] => .halted (.ok result) ⟨[], memory, hookState⟩
  | .ok (some value), caller :: rest => .running ⟨caller.push value :: rest, memory, hookState⟩
  | .ok none, callers => .running ⟨callers, memory, hookState⟩

/-- The exception that the value on top of the stack raises, with the calls it goes through. -/
def raised (frame : Frame) (callers : List Frame) (heap : Heap) : RuntimeError :=
  match frame.pop with
  | .error failure => failure
  | .ok (value, _) => .thrown (heap.exceptionText value) ((frame :: callers).map Frame.describe)

/-- The calls in progress when a method has been entered with arguments from the stack. -/
def callFrames (program : Program) (limits : Limits) (callee : Member) (frame : Frame)
    (callers : List Frame) : Except RuntimeError (List Frame) := do
  let method ← program.method callee
  let (args, frame) ← frame.popMany method.argCount
  enterCall limits method args (frame :: callers)

/-- Shows a value to the hook and goes on with its answer, which must fit the site's type. -/
def observe (hook : Hook σ) (type : ValueType) (frame : Frame) (callers : List Frame) (memory : Memory)
    (hookState : σ) : Step σ :=
  match frame.popHookCall type with
  | .error failure => .halted (.error failure) ⟨frame :: callers, memory, hookState⟩
  | .ok ((point, value), frame) =>
    let ⟨heap, statics⟩ := memory
    let (answer, hookState, heap) := hook point value hookState heap
    match answer with
    | .error reason => .halted (.error (.hook point.site reason)) ⟨frame :: callers, ⟨heap, statics⟩, hookState⟩
    | .ok result =>
      if result.isAssignable type then
        .running ⟨frame.push result.box :: callers, ⟨heap, statics⟩, hookState⟩
      else
        .halted (.error (.hookResultType point.site type result.describe))
          ⟨frame :: callers, ⟨heap, statics⟩, hookState⟩

/-- Executes one instruction of the innermost call. -/
def step (program : Program) (hook : Hook σ) (limits : Limits) : State σ → Step σ
  | ⟨[], memory, hookState⟩ =>
    .halted (.error (.unsupported "execution without a frame")) ⟨[], memory, hookState⟩
  | ⟨frame :: callers, memory, hookState⟩ =>
    match frame.method.code[frame.pointer]? with
    | none =>
      .halted (.error (.fellOffEnd frame.method.qualifiedName)) ⟨frame :: callers, memory, hookState⟩
    | some instruction =>
      let frame := { frame with pointer := frame.pointer + 1 }
      match instruction.opcode with
      | .return => leaveCall frame callers memory hookState
      | .throw =>
        .halted (.error (raised frame callers memory.heap)) ⟨frame :: callers, memory, hookState⟩
      | .call callee =>
        match callFrames program limits callee frame callers with
        | .error failure => .halted (.error failure) ⟨frame :: callers, memory, hookState⟩
        | .ok frames => .running ⟨frames, memory, hookState⟩
      | .callHook type => observe hook type frame callers memory hookState
      | opcode =>
        match frame.execute program memory opcode with
        | .error failure => .halted (.error failure) ⟨frame :: callers, memory, hookState⟩
        | .ok (frame, effect) => .running ⟨frame :: callers, memory.perform effect, hookState⟩

/-- Executes up to `left` instructions; with them the limit is used up. Answers the result, the
instructions not used, and the state at the end. -/
def run (program : Program) (hook : Hook σ) (limits : Limits) (limit : UInt64) :
    Nat → State σ → Except RuntimeError (Option Value) × Nat × State σ
  | 0, state => (.error (.stepLimit limit), 0, state)
  | left + 1, state =>
    match state.step program hook limits with
    | .running state => state.run program hook limits limit left
    | .halted result state => (result, left, state)

end State

end Faultline
