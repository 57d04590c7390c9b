import Faultline.Proofs.Site.HookedSteps

namespace Faultline

namespace Program

variable {σ : Type} {program hooked : Program} {sites : Sites} {limits : Limits}

/-- The run of a program in which every site shows its value to the hook. -/
def EndsObserved (program : Program) (sites : Sites) (hook : Hook σ) (limits : Limits) :
    Invocation σ → Outcome σ → Prop :=
  program.Ends limits (State.watched (State.step program hook limits) sites (State.showTop hook))

/-- A method is entered alike in the program and in its instrumented form. -/
theorem Hooked.enter (programs : Program.Hooked sites program hooked) (limits : Limits) (method : Member)
    (args : List Value) :
    Agree RuntimeError.Plain
      (fun frames frames' => ∃ frame frame', Frame.Ready program sites frame frame' ∧ frames = [frame] ∧
        frames' = [frame'])
      (program.enter limits method args) (hooked.enter limits method args) := by
  refine (programs.method method).bind ?_
  rintro entered entered' ⟨declared, related⟩
  have interface : Method.SameInterface entered entered' :=
    ⟨related.qualifiedName_eq, related.argCount_eq, related.locals_eq, related.hasBody⟩
  refine (interface.enterCall (List.forall₂_same.2 fun _ _ => Value.Alike.eq_iff.2 rfl) limits rfl).mono
    (fun _ _ => id) ?_
  rintro frames frames' ⟨rfl, rfl⟩
  exact ⟨_, _, Frame.enter_ready declared related, rfl, rfl⟩

/-- The program with hook calls ends whenever the observed program does, and in the same way. -/
theorem Hooked.ends (programs : Program.Hooked sites program hooked) {hook : Hook σ} {call : Invocation σ}
    {outcome : Outcome σ} (ends : program.EndsObserved sites hook limits call outcome) :
    ∃ outcome', hooked.Ends limits (State.step hooked hook limits) call outcome' ∧
      Outcome.Moved program sites outcome outcome' := by
  have entered := programs.enter limits call.method call.args
  cases ends with
  | refused refusal =>
    rw [refusal] at entered
    cases refusal' : hooked.enter limits call.method call.args with
    | ok frames => rw [refusal'] at entered; cases entered
    | error failure =>
      rw [refusal'] at entered
      cases entered with
      | error same =>
        obtain ⟨rfl, plain⟩ := same
        exact ⟨_, .refused refusal', .error (.same (RuntimeError.isPlaced_of_isPlain plain)), rfl, rfl⟩
  | ran entering halts =>
    rw [entering] at entered
    cases entering' : hooked.enter limits call.method call.args with
    | error failure => rw [entering'] at entered; cases entered
    | ok frames' =>
      rw [entering'] at entered
      cases entered with
      | ok same =>
        obtain ⟨frame, frame', ready, rfl, rfl⟩ := same
        obtain ⟨result', last', halts', same, memory, hookState⟩ :=
          halts.simulated (fun _ _ => step_answered programs) (.intro ready .nil call.memory call.hookState)
        exact ⟨_, .ran entering' halts', same, memory, hookState⟩

/-- Nor does it end otherwise. -/
theorem Hooked.ends_only (programs : Program.Hooked sites program hooked) {hook : Hook σ} {call : Invocation σ}
    {outcome' : Outcome σ} (ends : hooked.Ends limits (State.step hooked hook limits) call outcome') :
    ∃ outcome, program.EndsObserved sites hook limits call outcome ∧
    Outcome.Moved program sites outcome outcome' := by
  have entered := programs.enter limits call.method call.args
  cases ends with
  | refused refusal' =>
    rw [refusal'] at entered
    cases refusal : program.enter limits call.method call.args with
    | ok frames => rw [refusal] at entered; cases entered
    | error failure =>
      rw [refusal] at entered
      cases entered with
      | error same =>
        obtain ⟨rfl, plain⟩ := same
        exact ⟨_, .refused refusal, .error (.same (RuntimeError.isPlaced_of_isPlain plain)), rfl, rfl⟩
  | ran entering' halts' =>
    rw [entering'] at entered
    cases entering : program.enter limits call.method call.args with
    | error failure => rw [entering] at entered; cases entered
    | ok frames =>
      rw [entering] at entered
      cases entered with
      | ok same =>
        obtain ⟨frame, frame', ready, rfl, rfl⟩ := same
        obtain ⟨result, last, halts, same, memory, hookState⟩ :=
          halts'.reflected (fun _ _ => step_answered programs) (.intro ready .nil call.memory call.hookState)
        exact ⟨_, .ran entering halts, same, memory, hookState⟩

end Program

/-- What the loads of the modules at the given positions are observed as. -/
def sitesAt (modules : List Module) (positions : List Nat) (first : UInt32) : Sites :=
  Sites.numbered (fieldTypeIn? modules) (loadsAt (fieldTypeIn? modules) positions modules) first

/-- The site of a load has the type of the load, and only in the modules that are instrumented. -/
theorem sitesAt_type {modules rewritten : List Module} {positions : List Nat} {first : UInt32}
    (distinct : (declaredMethods modules).Nodup)
    (h : ModulesHooked (fieldTypeIn? modules) (sitesAt modules positions first) positions modules rewritten)
    {position : Nat} {module : Module} (placed : modules[position]? = some module) {method : Method}
    (declared : method ∈ module.methods) (index : Nat) :
    (sitesAt modules positions first method index).map (·.type) =
      if position ∈ positions then method.loadType? (fieldTypeIn? modules) index else none := by
  by_cases chosen : position ∈ positions
  · obtain ⟨_, _, instrumented⟩ := h.hooked position chosen module placed
    rw [if_pos chosen]
    exact instrumented.methods.typed method declared index
  · rw [if_neg chosen, sitesAt, Sites.numbered_of_elsewhere distinct placed declared chosen, Option.map_none]

/-- However some modules of a program are chosen to be instrumented, the program with them in it links and
does under every hook, and from any memory, exactly what the program does that shows the hook its loads in the
chosen modules: an invocation of either ends when that of the other does, in the same way but for moved
instructions, and this is what the machine answers when nothing limits its steps. -/
theorem instrumentAt_simulates {modules rewritten : List Module} {program : Program} {positions : List Nat}
    {first last : UInt32} (linked : Program.link modules = .ok program) (once : positions.Nodup)
    (rewriting : instrumentAt (fieldTypeIn? modules) positions modules first = .ok (rewritten, last)) :
    (∀ position module, modules[position]? = some module → ∀ method ∈ module.methods, ∀ index,
      (sitesAt modules positions first method index).map (·.type) =
        if position ∈ positions then method.loadType? (fieldTypeIn? modules) index else none) ∧
    ∃ hooked, Program.link rewritten = .ok hooked ∧
      ∀ {σ : Type} (hook : Hook σ) (limits : Limits) (call : Invocation σ),
        (∀ outcome, program.EndsObserved (sitesAt modules positions first) hook limits call outcome →
          ∃ outcome', hooked.Ends limits (State.step hooked hook limits) call outcome' ∧
            Outcome.Moved program (sitesAt modules positions first) outcome outcome') ∧
        (∀ outcome', hooked.Ends limits (State.step hooked hook limits) call outcome' →
          ∃ outcome, program.EndsObserved (sitesAt modules positions first) hook limits call outcome ∧
            Outcome.Moved program (sitesAt modules positions first) outcome outcome') ∧
        ∀ result machine' hookState',
          (⟨hooked, { limits with steps := none }, call.memory, 0⟩ : Machine).invoke hook call.hookState
            call.method call.args =
            (result, machine', hookState') → result ≠ .error (.stepLimit 0xFFFFFFFFFFFFFFFF) →
          ∃ outcome, program.EndsObserved (sitesAt modules positions first) hook
            { limits with steps := none } call outcome ∧
            Outcome.Moved program (sitesAt modules positions first) outcome
            ⟨result, machine'.memory, hookState'⟩ := by
  have distinct : (declaredMethods modules).Nodup := Program.link_modules linked ▸ program.nodup
  obtain ⟨hooked, linked', programs⟩ := instrumentAt_links linked once rewriting
  refine ⟨fun position module placed method declared index =>
    sitesAt_type distinct (instrumentAt_hooked distinct once rewriting) placed declared index, hooked, linked', ?_⟩
  intro σ hook limits call
  refine ⟨fun outcome => programs.ends, fun outcome' => programs.ends_only, ?_⟩
  intro result machine' hookState' answer counted
  exact programs.ends_only (Machine.invoke_ends rfl answer counted)

/-- A module with one method, which answers its argument. -/
def echoModule : Module :=
  { name := "Echo", optimized := false, debugInfo := .full, metadata := .empty, classes := [], sites := []
    methods := [
      { owner := "Echo", name := "answer", isStatic := true, params := [.int32], locals := [], returns := some .int32
        attributes := []
        body := some #[⟨.loadArg 0, some ⟨"echo", 1, 1, 1, 9⟩⟩, ⟨.return, none⟩] }] }

/-- A method that returns its argument. -/
theorem instrumentAt_simulates_echo : ∃ program rewritten last hooked,
    Program.link [echoModule] = .ok program ∧
    instrumentAt (fieldTypeIn? [echoModule]) [0] [echoModule] 0 = .ok (rewritten, last) ∧
    Program.link rewritten = .ok hooked ∧
    ∀ (limits : Limits) (call : Invocation Unit) outcome',
      hooked.Ends limits (State.step hooked passThrough limits) call outcome' →
      ∃ outcome, program.EndsObserved (sitesAt [echoModule] [0] 0) passThrough limits call outcome ∧
        Outcome.Moved program (sitesAt [echoModule] [0] 0) outcome outcome' := by
  obtain ⟨program, linked⟩ : ∃ program, Program.link [echoModule] = .ok program := ⟨_, rfl⟩
  obtain ⟨rewritten, last, rewriting⟩ : ∃ rewritten last,
      instrumentAt (fieldTypeIn? [echoModule]) [0] [echoModule] 0 = .ok (rewritten, last) := ⟨_, _, rfl⟩
  obtain ⟨_, hooked, linked', same⟩ := instrumentAt_simulates linked (List.nodup_singleton 0) rewriting
  exact ⟨_, rewritten, last, hooked, linked, rewriting, linked', fun limits call =>
    (same passThrough limits call).2.1⟩

end Faultline
