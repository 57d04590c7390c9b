import Faultline.Proofs.Machine.Dispatch
import Faultline.Proofs.Machine.Lockstep

namespace Faultline

variable {σ τ : Type}

/-- Calls beside each other, at the places where they are. -/
theorem Frame.Matches.fixed {matching : Matching} {pairing : Nat → Nat → Prop} {frame frame' : Frame}
    (h : Frame.Matches matching pairing frame frame') :
    Frame.Matches (matching.at frame frame') pairing frame frame' :=
  ⟨h.toAlike, h.place, ⟨rfl, rfl⟩, rfl, rfl⟩

/-- What two machines that are compared have in common: their objects, their methods, and the calls that wait for
another one to return. -/
structure Comparison where
  matching : Matching
  pairing : Nat → Nat → Prop
  methods : Method → Method → Prop
  waits : Frame → Frame → Prop
  interface : ∀ {method method'}, methods method method' → Method.SameInterface method method'
  placed : ∀ {frame frame'}, waits frame frame' → Frame.Matches matching pairing frame frame'
  pushed : ∀ {frame frame' value value'}, waits frame frame' → Value.Alike pairing value value' →
    waits (frame.push value) (frame'.push value')

/-- All that an instruction can do, other than a hook call, in two machines that execute it with the pointer
moved past it; jump targets are moved by `moved` in the second. -/
inductive Comparison.Dispatched (c : Comparison) (moved : Nat → Nat) (frame frame' : Frame)
    (callers callers' : List Frame) (memory memory' : Memory) (hookState : σ)
    (hookState' : τ) : Step σ → Step τ → Prop
  | failed {failure failure'} (related : c.matching.failure failure failure') (frames frames') :
      c.Dispatched moved frame frame' callers callers' memory memory' hookState hookState'
        (.halted (.error failure) ⟨frames, memory, hookState⟩)
        (.halted (.error failure') ⟨frames', memory', hookState'⟩)
  | ended {result result'} (related : Option.Rel (Value.Alike c.pairing) result result') (frames frames') :
      c.Dispatched moved frame frame' callers callers' memory memory' hookState hookState'
        (.halted (.ok result) ⟨frames, memory, hookState⟩) (.halted (.ok result') ⟨frames', memory', hookState'⟩)
  | returned {caller caller' rest rest'} (resumed : c.waits caller caller')
      (waiting : List.Forall₂ c.waits rest rest') :
      c.Dispatched moved frame frame' callers callers' memory memory' hookState hookState'
        (.running ⟨caller :: rest, memory, hookState⟩) (.running ⟨caller' :: rest', memory', hookState'⟩)
  | called {method method' args args' caller caller'} (related : c.methods method method')
      (alike : List.Forall₂ (Value.Alike c.pairing) args args')
      (waiting : Frame.Matches (c.matching.at frame frame') c.pairing caller caller') :
      c.Dispatched moved frame frame' callers callers' memory memory' hookState hookState'
        (.running ⟨Frame.enter method args :: caller :: callers, memory, hookState⟩)
        (.running ⟨Frame.enter method' args' :: caller' :: callers', memory', hookState'⟩)
  | jumped {next next'} (target : Nat) (resting : Frame.Matches (c.matching.at frame frame') c.pairing next next') :
      c.Dispatched moved frame frame' callers callers' memory memory' hookState hookState'
        (.running ⟨{ next with pointer := target } :: callers, memory, hookState⟩)
        (.running ⟨{ next' with pointer := moved target } :: callers', memory', hookState'⟩)
  | passed {next next' effect effect'} (effects : Memory.Effect.Alike c.pairing effect effect')
      (resting : Frame.Matches (c.matching.at frame frame')
        (effect.grow c.pairing memory.heap memory'.heap) next next') :
      c.Dispatched moved frame frame' callers callers' memory memory' hookState hookState'
        (.running ⟨next :: callers, memory.perform effect, hookState⟩)
        (.running ⟨next' :: callers', memory'.perform effect', hookState'⟩)

namespace Comparison

variable {c : Comparison} {program program' : Program} {hook : Hook σ} {hook' : Hook τ} {limits : Limits}
  {moved : Nat → Nat} {frame frame' : Frame} {callers callers' : List Frame} {memory memory' : Memory} {hookState : σ}
  {hookState' : τ} {opcode : Opcode}

/-- Matching frames leave their calls alike: the same callers wait and the answers are alike. -/
theorem leaveCall (here : Frame.Matches c.matching c.pairing frame frame')
    (waiting : List.Forall₂ c.waits callers callers') :
    c.Dispatched moved frame frame' callers callers' memory memory' hookState hookState'
      (State.leaveCall frame callers memory hookState) (State.leaveCall frame' callers' memory' hookState') := by
  have returned : Agree c.matching.failure (Option.Rel (Value.Alike c.pairing))
      (if frame.method.returns.isSome then (fun popped => some popped.1) <$> frame.pop else .ok none)
      (if frame'.method.returns.isSome then (fun popped => some popped.1) <$> frame'.pop else .ok none) := by
    rw [c.matching.returns_eq here.place]
    split
    · exact here.pop.map fun _ _ same => .some same.1
    · exact .ok .none
  unfold State.leaveCall
  generalize (if frame.method.returns.isSome then (fun popped => some popped.1) <$> frame.pop else .ok none) =
    result at returned
  generalize (if frame'.method.returns.isSome then (fun popped => some popped.1) <$> frame'.pop
    else .ok none) = result' at returned
  cases returned with
  | error failing => exact .failed failing ..
  | ok same =>
    cases waiting with
    | nil => exact .ended same ..
    | cons caller rest =>
      cases same with
      | none => exact .returned caller rest
      | some alike => exact .returned (c.pushed caller alike) rest

/-- Matching frames branch alike: the condition is alike and the targets correspond. -/
theorem branch (here : Frame.Matches c.matching c.pairing frame frame') (wanted : Bool) (target : Nat) :
    c.Dispatched moved frame frame' callers callers' memory memory' hookState hookState'
      (match frame.branch wanted target >>= fun frame => .ok (frame, Memory.Effect.none) with
        | .error failure => .halted (.error failure) ⟨frame :: callers, memory, hookState⟩
        | .ok (frame, effect) => .running ⟨frame :: callers, memory.perform effect, hookState⟩)
      (match frame'.branch wanted (moved target) >>= fun frame => .ok (frame, Memory.Effect.none) with
        | .error failure => .halted (.error failure) ⟨frame' :: callers', memory', hookState'⟩
        | .ok (frame, effect) => .running ⟨frame :: callers', memory'.perform effect, hookState'⟩) := by
  have branched := here.fixed.branch wanted target (moved target)
  generalize frame.branch wanted target = result at branched
  generalize frame'.branch wanted (moved target) = result' at branched
  cases branched with
  | error failing => exact .failed failing ..
  | ok same =>
    obtain ⟨rest, rest', resting, ⟨rfl, rfl⟩ | ⟨rfl, rfl⟩⟩ := same
    · exact .passed .none resting
    · exact .jumped target resting

/-- Whatever instruction it is, the machines do corresponding things. -/
theorem dispatch (programs : Program.Matches c.methods program program')
    (memories : Memory.Alike c.pairing memory memory')
    (here : Frame.Matches c.matching c.pairing frame frame') (waiting : List.Forall₂ c.waits callers callers')
    (unhooked : ∀ type, opcode ≠ .callHook type) :
    c.Dispatched moved frame frame' callers callers' memory memory' hookState hookState'
      (State.dispatch program hook limits opcode frame callers memory hookState)
      (State.dispatch program' hook' limits (opcode.mapTarget moved) frame' callers' memory' hookState') := by
  have straight : opcode.isLocal → opcode.target? = none →
      c.Dispatched moved frame frame' callers callers' memory memory' hookState hookState'
        (State.dispatch program hook limits opcode frame callers memory hookState)
        (State.dispatch program' hook' limits (opcode.mapTarget moved) frame' callers' memory' hookState') := by
    intro own unjumping
    rw [Opcode.mapTarget_of_target?_none _ unjumping, State.dispatch_of_isLocal own, State.dispatch_of_isLocal own]
    have executed := here.fixed.execute programs.classes memories unjumping
    generalize frame.execute program memory opcode = result at executed
    generalize frame'.execute program' memory' opcode = result' at executed
    cases executed with
    | error failing => exact .failed failing ..
    | ok same => exact .passed same.1 same.2
  cases opcode with
  | «return» => exact leaveCall here waiting
  | throw => exact .failed (here.raised memories (waiting.imp fun _ _ => c.placed)) ..
  | call callee =>
    have entered := here.fixed.callFrames programs (fun _ _ => c.interface) waiting.length_eq.symm limits callee
    simp only [State.dispatch, Opcode.mapTarget]
    generalize State.callFrames program limits callee frame callers = result at entered
    generalize State.callFrames program' limits callee frame' callers' = result' at entered
    cases entered with
    | error failing => exact .failed failing ..
    | ok same =>
      obtain ⟨method, method', args, args', caller, caller', related, alike, resting, rfl, rfl⟩ := same
      exact .called related alike resting
  | callHook type => exact absurd rfl (unhooked type)
  | jump target => exact .jumped target here.fixed
  | jumpIfTrue target => exact branch here true target
  | jumpIfFalse target => exact branch here false target
  | _ => exact straight rfl rfl

end Comparison

end Faultline
