import Faultline.Proofs.Machine.StackSafety

namespace Faultline

/-- Whether the error says that control fell off the end of a method. -/
def RuntimeError.isFall : RuntimeError → Bool
  | fellOffEnd _ => true
  | _ => false

/-- A call of a declared method that is at an instruction to which control comes as the analysis sees it,
unless the method has no instructions at all. -/
structure Frame.Confined (program : Program) (frame : Frame) : Prop where
  declared : program.Declares frame.method
  inside : frame.method.body = some #[] ∨ (frame.method.depthAt? (signatureIn? program.modules) frame.pointer).isSome

/-- A result that tells of a fall only off the end of a method without instructions. -/
def Program.FallsOffEmpty (program : Program) (result : Except RuntimeError (Option Value)) : Prop :=
  ∀ name, result = .error (.fellOffEnd name) → ∃ method, program.Declares method ∧ method.body = some #[
    ] ∧ method.qualifiedName = name

section Confined

variable {σ : Type} {program : Program} {hook : Hook σ} {limits : Limits} {frame frame' : Frame}
  {callers : List Frame} {memory : Memory} {hookState : σ} {opcode : Opcode}

/-- A state of which all calls are confined. -/
def State.Confined (program : Program) (state : State σ) : Prop := ∀ frame ∈ state.frames, frame.Confined program

/-- A step that goes on in such a state or ends with a fall, if at all, off a method without instructions. -/
inductive Step.Confined (program : Program) : Step σ → Prop
  | running {state : State σ} (confined : state.Confined program) : Confined program (.running state)
  | halted {result : Except RuntimeError (Option Value)} (falls : program.FallsOffEmpty result) (state : State σ) :
      Confined program (.halted result state)

theorem Program.fallsOffEmpty_error {failure : RuntimeError} (other : failure.isFall = false) :
    program.FallsOffEmpty (.error failure) := by
  rintro name ⟨⟩
  cases other

theorem Program.fallsOffEmpty_ok (result : Option Value) : program.FallsOffEmpty (.ok result) := nofun

theorem Step.Confined.failed {failure : RuntimeError} (other : failure.isFall = false) (state : State σ) :
    Step.Confined program (.halted (.error failure) state) :=
  .halted (Program.fallsOffEmpty_error other) state

theorem Frame.Refuses.isFall_eq_false {needed : Nat} {failure : RuntimeError}
    (refuses : frame.Refuses needed failure) :
    failure.isFall = false := by
  cases refuses with
  | operand known => cases failure <;> first | rfl | cases known
  | underflow method index short => rfl

theorem Method.Refuses.isFall_eq_false {method : Method} {args : List Value} {failure : RuntimeError}
    (refuses : method.Refuses args failure) : failure.isFall = false := by
  cases refuses <;> rfl

theorem Program.isFall_of_method {name : Member} {failure : RuntimeError}
    (unknown : program.method name = .error failure) :
    failure.isFall = false := by
  unfold Program.method at unknown
  split at unknown <;> cases unknown
  rfl

/-- Where a call stands is all that matters. -/
theorem Frame.Shifted.confined {pops pushes : Nat} (shifted : Frame.Shifted pops pushes frame frame')
    (h : frame.Confined program) :
    frame'.Confined program := by
  obtain ⟨declared, inside⟩ := h
  rw [← shifted.method] at declared inside
  rw [← shifted.pointer] at inside
  exact ⟨declared, inside⟩

theorem Frame.Confined.push (h : frame.Confined program) (value : Value) :
    (frame.push value).Confined program := ⟨h.declared, h.inside⟩

/-- A call begins at the first instruction, if there is one. -/
theorem Program.Accepted.enter_confined (accepted : program.Accepted) {method : Method}
    (declared : program.Declares method) (present : method.body.isSome) (args : List Value) :
    (Frame.enter method args).Confined program := by
  refine ⟨declared, ?_⟩
  obtain ⟨body, written⟩ := Option.isSome_iff_exists.1 present
  change method.body = _ ∨ (method.depthAt? _ 0).isSome
  rcases Nat.eq_zero_or_pos body.size with empty | inside
  · rw [Array.size_eq_zero_iff.1 empty] at written
    exact Or.inl written
  · obtain ⟨depths, found⟩ := accepted method declared present
    have code : method.code = body := by rw [Method.code, written, Option.getD_some]
    rw [Method.depthAt?_zero found (code ▸ inside)]
    exact Or.inr rfl

theorem RuntimeError.isFall_of_isOfHook {failure : RuntimeError} (ofHook : failure.isOfHook = true) :
    failure.isFall = false := by
  cases failure <;> first | rfl | cases ofHook

/-- Leaving a call leaves only frames that were waiting, which are confined already. -/
theorem State.leaveCall_confined (waiting : ∀ caller ∈ callers, caller.Confined program) :
    (State.leaveCall frame callers memory hookState).Confined program := by
  obtain ⟨failure, -, refuses, left⟩ | ⟨result, -, left⟩ := State.leaveCall_cases frame callers memory hookState
  · rw [left]
    exact .failed refuses.isFall_eq_false _
  · rw [left]
    cases callers with
    | nil => exact .halted (Program.fallsOffEmpty_ok result) _
    | cons caller rest =>
      obtain ⟨here, waiting⟩ := List.forall_mem_cons.1 waiting
      cases result with
      | none => exact .running (List.forall_mem_cons.2 ⟨here, waiting⟩)
      | some value => exact .running (List.forall_mem_cons.2 ⟨here.push value, waiting⟩)

theorem State.isFall_raised (heap : Heap) : (State.raised frame callers heap).isFall = false := by
  obtain refuses | ⟨text, raised⟩ := State.raised_cases frame callers heap
  · exact refuses.isFall_eq_false
  · rw [raised]
    rfl

/-- The frame a call enters starts at the first instruction of an accepted body. -/
theorem State.callFrames_confined (accepted : program.Accepted) (onward : frame.Confined program)
    (waiting : ∀ caller ∈ callers, caller.Confined program) (limits : Limits) (name : Member) :
    Yields (fun failure => failure.isFall = false) (fun frames => ∀ frame ∈ frames, frame.Confined program)
      (State.callFrames program limits name frame callers) := by
  unfold State.callFrames
  cases found : program.method name with
  | error failure => exact .error (Program.isFall_of_method found)
  | ok method =>
    refine ((frame.yields_popMany method.argCount).mono (fun _ => Frame.Refuses.isFall_eq_false) fun _ => id).bind ?_
    rintro ⟨args, rest⟩ ⟨-, shifted⟩
    refine (yields_enterCall limits method args (rest :: callers)).mono (fun _ => Method.Refuses.isFall_eq_false) ?_
    rintro frames ⟨present, rfl⟩
    have begun := accepted.enter_confined (Program.declares_of_method found) present args
    exact List.forall_mem_cons.2 ⟨begun, List.forall_mem_cons.2 ⟨shifted.confined onward, waiting⟩⟩

/-- A step within one instruction leaves its frame at the next instruction or at the target. -/
theorem Step.Within.confined {pops pushes : Nat} {step : Step σ}
    (within : step.Within opcode pops pushes frame callers)
    (onward : opcode.isUnconditional = false → frame.Confined program)
    (jumping : ∀ target, opcode.target? = some target → Frame.Confined program { frame with pointer := target })
    (waiting : ∀ caller ∈ callers, caller.Confined program) : step.Confined program := by
  cases within with
  | onward flows shifted => exact .running (List.forall_mem_cons.2 ⟨shifted.confined (onward flows), waiting⟩)
  | jumps aims shifted => exact .running (List.forall_mem_cons.2 ⟨shifted.confined (jumping _ aims), waiting⟩)
  | refuses refuses => exact .failed refuses.isFall_eq_false _
  | unanswered ofHook => exact .failed (RuntimeError.isFall_of_isOfHook ofHook) _

/-- Whatever instruction it is, control stays confined if it is so behind the instruction, where that can be,
and at its target. -/
theorem State.dispatch_confined (accepted : program.Accepted)
    (onward : opcode.isUnconditional = false → frame.Confined program)
    (jumping : ∀ target, opcode.target? = some target → Frame.Confined program { frame with pointer := target })
    (waiting : ∀ caller ∈ callers, caller.Confined program) :
    (State.dispatch program hook limits opcode frame callers memory hookState).Confined program := by
  have within {pops pushes : Nat} (effect : opcode.effect? = some (pops, pushes)) (silent : opcode ≠ .throw) :
      (State.dispatch program hook limits opcode frame callers memory hookState).Confined program :=
    (State.dispatch_within effect silent).confined onward jumping waiting
  cases opcode with
  | «return» => exact State.leaveCall_confined waiting
  | throw => exact .failed (State.isFall_raised memory.heap) _
  | call name =>
    have called := State.callFrames_confined accepted (onward rfl) waiting limits name
    simp only [State.dispatch]
    generalize State.callFrames program limits name frame callers = result at called
    cases called with
    | error other => exact .failed other _
    | ok confined => exact .running confined
  | _ => exact within rfl (by simp)

/-- One step keeps all calls confined, and control falls only off a method without instructions. -/
theorem State.Confined.step (accepted : program.Accepted) {state : State σ} (h : state.Confined program) :
    (State.step program hook limits state).Confined program := by
  obtain ⟨frames, memory, hookState⟩ := state
  cases frames with
  | nil => exact .failed rfl _
  | cons frame callers =>
    obtain ⟨⟨declared, inside⟩, waiting⟩ := List.forall_mem_cons.1 h
    cases fetched : frame.method.code[frame.pointer]? with
    | none =>
      rw [State.step_of_fellOff fetched]
      refine .halted ?_ _
      rintro name ⟨⟩
      rcases inside with empty | reached
      · exact ⟨frame.method, declared, empty, rfl⟩
      · obtain ⟨depth, reached⟩ := Option.isSome_iff_exists.1 reached
        obtain ⟨instruction, -, -, there, -⟩ := Method.flow_of_depthAt? reached
        cases fetched.symm.trans there
    | some instruction =>
      have reached : (frame.method.depthAt? (signatureIn? program.modules) frame.pointer).isSome := by
        refine inside.resolve_left fun empty => ?_
        simp [Method.code, empty] at fetched
      obtain ⟨depth, reached⟩ := Option.isSome_iff_exists.1 reached
      obtain ⟨known, pops, pushes, there, -, -, onward, jumping⟩ := Method.flow_of_depthAt? reached
      cases fetched.symm.trans there
      rw [State.step_of_fetched fetched]
      refine State.dispatch_confined accepted (fun flows => ⟨declared, Or.inr ?_⟩)
        (fun target jumps => ⟨declared, Or.inr ?_⟩) waiting
      · exact Option.isSome_of_eq_some (onward flows)
      · exact Option.isSome_of_eq_some (jumping target jumps)

/-- And so do any number of steps. -/
theorem State.Confined.advance (accepted : program.Accepted) {state : State σ} (h : state.Confined program)
    (count : Nat) :
    (State.advance (State.step program hook limits) count state).Confined program := by
  induction count generalizing state with
  | zero => exact .running h
  | succ count ih =>
    have stepped : (State.step program hook limits state).Confined program := h.step accepted
    simp only [State.advance]
    generalize State.step program hook limits state = next at stepped
    cases stepped with
    | running confined => exact ih confined
    | halted falls last => exact .halted falls last

/-- Entering a method from outside makes one frame, for a method the program declares with a body. -/
theorem Program.yields_enter (program : Program) (limits : Limits) (name : Member) (args : List Value) :
    Yields (fun failure => failure.isFall = false)
      (fun frames => ∃ method, program.Declares method ∧ method.body.isSome ∧ frames = [Frame.enter method args])
      (program.enter limits name args) := by
  unfold Program.enter
  cases found : program.method name with
  | error failure => exact .error (Program.isFall_of_method found)
  | ok method =>
    refine (yields_enterCall limits method args []).mono (fun _ => Method.Refuses.isFall_eq_false)
      fun frames ⟨present, entered⟩ => ?_
    exact ⟨method, Program.declares_of_method found, present, entered⟩

end Confined

/-- Where the stack analysis accepts every method of a program, control never leaves the methods that have
instructions: at every step of every invocation, the call that goes on and those in progress are at an
instruction of their method, unless it has none. So an invocation falls only off the end of a method without
instructions. -/
theorem Program.stackDepths_confines {modules : List Module} {program : Program}
    (linked : Program.link modules = .ok program)
    (accepted : ∀ module ∈ modules, ∀ method ∈ module.methods, method.body.isSome →
      ∃ depths, method.stackDepths (signatureIn? modules) = .ok depths) {σ : Type} (hook : Hook σ)
    (hookState : σ) (limits : Limits) (memory : Memory) (name : Member) (args : List Value) :
    (∀ frames, program.enter limits name args = .ok frames → ∀ count state,
      State.advance (State.step program hook limits) count ⟨frames, memory, hookState⟩ = .running state →
        ∀ frame ∈ state.frames, frame.method.body = some #[] ∨ frame.pointer < frame.method.code.size) ∧
    ∀ steps text, ((⟨program, limits, memory, steps⟩ : Machine).invoke hook hookState name args).1 = .error
      (.fellOffEnd text) →
      ∃ module ∈ modules, ∃ method ∈ module.methods, method.body = some #[] ∧ method.qualifiedName = text := by
  have whole := Program.link_modules linked
  have accepted : program.Accepted := by
    rintro other ⟨module, listed, declared⟩ present
    rw [whole] at listed ⊢
    exact accepted module listed other declared present
  have begun := program.yields_enter limits name args
  have confined (frames : List Frame) (entered : program.enter limits name args = .ok frames) (count : Nat) :
      (State.advance (State.step program hook limits) count ⟨frames, memory, hookState⟩).Confined program := by
    rw [entered] at begun
    cases begun with
    | ok holds =>
      obtain ⟨method, declared, present, rfl⟩ := holds
      have start : State.Confined program ⟨[Frame.enter method args], memory, hookState⟩ :=
        List.forall_mem_singleton.2 (accepted.enter_confined declared present args)
      exact start.advance accepted count
  refine ⟨fun frames entered count state reached frame among => ?_, fun steps text fell => ?_⟩
  · have reaching := confined frames entered count
    rw [reached] at reaching
    cases reaching with
    | running confined =>
      refine (confined frame among).inside.imp_right fun known => ?_
      obtain ⟨depth, known⟩ := Option.isSome_iff_exists.1 known
      obtain ⟨instruction, -, -, there, -⟩ := Method.flow_of_depthAt? known
      exact (Array.getElem?_eq_some_iff.1 there).1
  · rcases answer : (⟨program, limits, memory, steps⟩ : Machine).invoke hook hookState name args
      with ⟨result, machine, hookState'⟩
    rw [answer] at fell
    cases fell
    have ends := Machine.invoke_ends_within answer nofun
    generalize same : (⟨.error (.fellOffEnd text), machine.memory, hookState'⟩ : Outcome σ) = outcome at ends
    cases ends with
    | refused refused =>
      cases same
      rw [refused] at begun
      cases begun with
      | error other => cases other
    | ran entered halts =>
      obtain ⟨count, halted⟩ := halts
      cases congrArg Outcome.result same
      have reaching := confined _ entered count
      rw [halted] at reaching
      cases reaching with
      | halted falls last =>
        obtain ⟨method, ⟨module, listed, declared⟩, empty, named⟩ := falls text rfl
        exact ⟨module, whole ▸ listed, method, declared, empty, named⟩

/-- A module with a method that calls one without instructions. -/
def hollowModule : Module :=
  let method (name : String) (body : Array Instruction) : Method :=
    { owner := "Hollow", name, isStatic := true, params := [], locals := [], returns := none,
      attributes := [], body := some body }
  { name := "Hollow", optimized := false, debugInfo := .full, metadata := .empty, classes := [], sites := []
    methods := [method "calls" #[⟨.call ⟨"Hollow", "empty"⟩, none⟩, ⟨.return, none⟩], method "empty" #[]] }

theorem hollowModule_accepted : ∀ method ∈ hollowModule.methods,
    ∃ depths, method.stackDepths (signatureIn? [hollowModule]) = .ok depths := by
  refine List.forall_mem_cons.2 ⟨⟨#[some 0, some 0], ?_⟩, List.forall_mem_singleton.2 ⟨#[], ?_⟩⟩ <;> cbv

/-- A method with an empty body, the one way in which an accepted program falls off an end. -/
theorem Program.stackDepths_confines_hollow : ∃ program, Program.link [hollowModule] = .ok program ∧
    (∀ module ∈ [hollowModule], ∀ method ∈ module.methods, method.body.isSome →
      ∃ depths, method.stackDepths (signatureIn? [hollowModule]) = .ok depths) ∧
    (∀ frames, program.enter {} ⟨"Hollow", "calls"⟩ [] = .ok frames → ∀ count state,
      State.advance (State.step program passThrough {}) count ⟨frames, ⟨.empty, .empty⟩, ()⟩ = .running state →
        ∀ frame ∈ state.frames, frame.method.body = some #[] ∨ frame.pointer < frame.method.code.size) ∧
    ∀ steps text,
        ((⟨program, {}, ⟨.empty, .empty⟩, steps⟩ : Machine).invoke passThrough () ⟨"Hollow", "calls"⟩ []).1 =
        .error (.fellOffEnd text) →
      ∃ module ∈ [hollowModule], ∃ method ∈ module.methods, method.body = some #[] ∧ method.qualifiedName = text := by
  obtain ⟨program, linked⟩ : ∃ program, Program.link [hollowModule] = .ok program := ⟨_, rfl⟩
  have accepted : ∀ module ∈ [hollowModule], ∀ method ∈ module.methods, method.body.isSome →
      ∃ depths, method.stackDepths (signatureIn? [hollowModule]) = .ok depths :=
    List.forall_mem_singleton.2 fun method listed _ => hollowModule_accepted method listed
  exact ⟨program, linked, accepted, Program.stackDepths_confines linked accepted passThrough () {}
    ⟨.empty, .empty⟩ ⟨"Hollow", "calls"⟩ []⟩

/-- The analysis accepts a method without instructions as well, and so a program of which all methods are
accepted can fall off the end. -/
theorem Program.stackDepths_admits_fall : ∃ program, Program.link [hollowModule] = .ok program ∧
    (∀ method ∈ hollowModule.methods, ∃ depths, method.stackDepths (signatureIn? [hollowModule]) = .ok depths) ∧
    ((⟨program, {}, ⟨.empty, .empty⟩, 0⟩ : Machine).invoke passThrough () ⟨"Hollow", "calls"⟩ []).1 =
      .error (.fellOffEnd "Hollow::empty") :=
  ⟨_, rfl, hollowModule_accepted, rfl⟩

end Faultline
