import Faultline.Proofs.Site.Fidelity

namespace Faultline

variable {σ : Type}

namespace Site

/-- The number of instructions before the operands of a site's hook call. -/
def boxing (site : Site) : Nat := if site.type.isPrimitive then 1 else 0

/-- The operand stack behind a load that pushed `value`, before the instruction at an offset of the site's
hook code. -/
inductive Stage (site : Site) (value : Value) (rest : List Value) : Nat → List Value → Prop
  | loaded (primitive : site.type.isPrimitive = true) : Stage site value rest 0 (value :: rest)
  | operands {shown : Value} {count : Nat} (opened : shownValue site.type shown = .ok value)
      (fits : site.type.isPrimitive = true → value.isAssignable site.type) (upTo : count ≤ 6) :
      Stage site value rest (site.boxing + count) ((site.operands.take count).reverse ++ shown :: rest)
  | answered {result : Value} (primitive : site.type.isPrimitive = true) (fits : result.isAssignable site.type) :
      Stage site value rest 8 (result.box :: rest)

variable {site : Site}

theorem Stage.start (site : Site) (value : Value) (rest : List Value) : Stage site value rest 0 (value :: rest) := by
  by_cases primitive : site.type.isPrimitive = true
  · exact .loaded primitive
  · have opened : shownValue site.type value = .ok value := by
      simp only [shownValue, primitive, if_false, Bool.false_eq_true]
    have first : site.boxing + 0 = 0 := by simp only [boxing, primitive, if_false, Bool.false_eq_true]
    exact first ▸ .operands opened (fun reference => absurd reference primitive) (Nat.zero_le 6)

theorem hookCode_operand (site : Site) {count : Nat} (before : count < 6) :
    ∃ opcode value, site.hookCode[site.boxing + count]? = some opcode ∧ opcode.literal? = some value ∧
      site.operands[count]? = some value := by
  unfold hookCode boxing
  split <;> match count, before with
    | 0, _ | 1, _ | 2, _ | 3, _ | 4, _ | 5, _ => exact ⟨_, _, rfl, rfl, rfl⟩

theorem hookCode_call (site : Site) : site.hookCode[site.boxing + 6]? = some (.callHook site.type) := by
  unfold hookCode boxing
  split <;> rfl

theorem hookCode_primitive (primitive : site.type.isPrimitive = true) :
    site.hookCode[0]? = some (.box site.type) ∧ site.hookCode[8]? = some (.unbox site.type) ∧
    site.hookCode.length = 9 := by
  unfold hookCode
  rw [if_pos primitive]
  exact ⟨rfl, rfl, rfl⟩

end Site

theorem HoldsAt.single {code : Array Instruction} {place offset : Nat} {opcodes : List Opcode} {opcode : Opcode}
    (h : HoldsAt code place opcodes) (here : opcodes[offset]? = some opcode) :
    HoldsAt code (place + offset) [opcode] := by
  intro later within
  obtain rfl : later = 0 := by simpa using within
  rw [Nat.add_zero, h offset (List.getElem?_eq_some_iff.1 here).1, here]
  rfl

section Stages

variable {program : Program} {hook : Hook σ} {limits : Limits} {loaded : Frame} {callers : List Frame}
  {memory : Memory} {hookState : σ} {site : Site} {value : Value} {rest stack : List Value} {offset : Nat}

/-- The call whose load a site observed, at an offset of the site's hook code. -/
def Frame.within (loaded : Frame) (offset : Nat) (stack : List Value) : Frame :=
  { loaded with pointer := loaded.pointer + offset, stack }

theorem Frame.holdsAt_within {opcode : Opcode} (placed : HoldsAt loaded.method.code loaded.pointer site.hookCode)
    (here : site.hookCode[offset]? = some opcode) (stack : List Value) :
    HoldsAt (loaded.within offset stack).method.code (loaded.within offset stack).pointer [opcode] :=
  placed.single here

/-- What the hook call of a site does once all of its operands are there. -/
theorem State.step_hookCall (fits : site.Fits)
    (placed : HoldsAt loaded.method.code loaded.pointer site.hookCode) {shown : Value}
    (opened : shownValue site.type shown = .ok value) :
    State.step program hook limits
        ⟨loaded.within (site.boxing + 6) ((site.operands.take 6).reverse ++ shown :: rest) :: callers,
          memory, hookState⟩ =
      State.consult hook ⟨site.id, site.type, site.location⟩ value (loaded.within (site.boxing + 6 + 1) rest)
        (fun result => loaded.within (site.boxing + 6 + 1) (result.box :: rest)) callers memory hookState := by
  obtain ⟨instruction, fetched, opcode⟩ :=
    (Frame.holdsAt_within placed site.hookCode_call ((site.operands.take 6).reverse ++ shown :: rest)).head
  rw [State.step_of_fetched fetched, opcode]
  simp only [State.dispatch, State.observe]
  rw [Site.popHookCall_operands fits rfl opened]
  simp only [State.consult]
  generalize hook _ value hookState memory.heap = answered
  obtain ⟨answer, hookState', heap⟩ := answered
  cases answer with
  | error reason => rfl
  | ok result =>
    simp only
    split <;> rfl

/-- A step from one stage leads to the next. -/
theorem Site.Stage.step (fits : site.Fits) (placed : HoldsAt loaded.method.code loaded.pointer site.hookCode)
    (stage : Site.Stage site value rest offset stack) (further : offset + 1 < site.hookCode.length)
    {later : State σ}
    (goes : State.step program hook limits ⟨loaded.within offset stack :: callers, memory, hookState⟩ =
      .running later) :
    ∃ stack' memory' hookState', later = ⟨loaded.within (offset + 1) stack' :: callers, memory', hookState'⟩ ∧
      Site.Stage site value rest (offset + 1) stack' := by
  cases stage with
  | loaded primitive =>
    rw [State.step_local (Frame.holdsAt_within placed (Site.hookCode_primitive primitive).1 (value :: rest)) rfl,
      Frame.execute_box (by rfl)] at goes
    unfold Frame.boxTop at goes
    split at goes
    · rename_i failure failed
      cases goes
    · rename_i next effect done
      split at done
      · rename_i fit
        cases done
        cases goes
        have boxed : value.box = .boxed value := by rw [State.box_of_isAssignable fit, if_pos primitive]
        have opened : shownValue site.type value.box = .ok value := by
          simp only [boxed, shownValue, primitive, if_true, Value.unbox, fit]
          rfl
        have first : site.boxing + 0 = 0 + 1 := by simp only [Site.boxing, primitive, if_true]
        exact ⟨_, _, _, rfl, first ▸ .operands opened (fun _ => fit) (Nat.zero_le 6)⟩
      · cases done
  | @operands shown count opened fit upTo =>
    rcases Nat.lt_or_eq_of_le upTo with before | rfl
    · obtain ⟨opcode, operand, here, literal, listed⟩ := site.hookCode_operand before
      rw [State.step_literal (Frame.holdsAt_within placed here _) literal] at goes
      cases goes
      refine ⟨(site.operands.take (count + 1)).reverse ++ shown :: rest, memory, hookState, ?_,
        .operands opened fit before⟩
      rw [List.take_add_one, listed, Option.toList_some, List.reverse_append, List.reverse_singleton]
      rfl
    · rw [State.step_hookCall fits placed opened] at goes
      have primitive : site.type.isPrimitive = true := by
        by_contra reference
        have length : site.hookCode.length = 7 := by
          rw [Site.length_hookCode, ValueType.hookLength, if_neg reference]
        simp only [Site.boxing, reference, if_false] at further
        omega
      have last : site.boxing + 6 + 1 = 8 := by simp only [Site.boxing, primitive, if_true]
      unfold State.consult at goes
      generalize hook _ value hookState memory.heap = answered at goes
      obtain ⟨answer, hookState', heap⟩ := answered
      cases answer with
      | error reason => cases goes
      | ok result =>
        simp only at goes
        split at goes
        · rename_i fit
          cases goes
          exact ⟨_, _, _, rfl, last ▸ .answered primitive fit⟩
        · cases goes
  | answered primitive fit =>
    rw [(Site.hookCode_primitive primitive).2.2] at further
    omega

end Stages

namespace State

/-- The instruction that comes next. -/
def opcode? (state : State σ) : Option Opcode :=
  state.frames.head?.bind fun frame => frame.method.code[frame.pointer]?.map (·.opcode)

/-- The method being executed and where in its body. -/
def place? (state : State σ) : Option (Member × Nat) :=
  state.frames.head?.map fun frame => (frame.method.member, frame.pointer)

/-- The value on top of the operand stack. -/
def top? (state : State σ) : Option Value := state.frames.head?.bind (·.stack.head?)

end State

section Phases

variable {program hooked : Program} {sites : Sites} {hook : Hook σ} {limits : Limits} {start : State σ}
  {loaded : Frame} {site : Site} {value : Value} {rest stack : List Value} {offset : Nat}

/-- Where a run of a program with hook calls stands after a number of steps: between instructions of the
original program, or behind an observed load, which pushed `value`, at an offset of the site's hook code. -/
inductive State.Phase (program hooked : Program) (sites : Sites) (hook : Hook σ) (limits : Limits) (start : State σ) :
    Nat → State σ → Prop
  | between {count : Nat} {state state' : State σ} (related : State.Hooked program sites state state') :
      Phase program hooked sites hook limits start count state'
  | within {before offset : Nat} {site : Site} {frame loading : Frame} {value : Value} {rest stack : List Value}
      {callers callers' : List Frame} {memory memory' : Memory} {hookState hookState' : σ}
      (observed : sites frame.method frame.pointer = some site) (ready : Frame.Ready program sites frame loading)
      (waiting : List.Forall₂ (Frame.Waiting program sites) callers callers')
      (reached : advance (step hooked hook limits) before start = .running ⟨loading :: callers', memory, hookState⟩)
      (load : step hooked hook limits ⟨loading :: callers', memory, hookState⟩ =
        .running ⟨loading.within 1 (value :: rest) :: callers', memory, hookState⟩)
      (inside : offset < site.hookCode.length) (stage : Site.Stage site value rest offset stack) :
      Phase program hooked sites hook limits start (before + 1 + offset)
        ⟨(loading.within 1 (value :: rest)).within offset stack :: callers', memory', hookState'⟩

theorem Frame.Ready.holdsAt {frame loading : Frame} {site : Site} (ready : Frame.Ready program sites frame loading)
    (observed : sites frame.method frame.pointer = some site) (stack : List Value) :
    HoldsAt (loading.within 1 stack).method.code (loading.within 1 stack).pointer site.hookCode := by
  intro offset within
  simp only [Frame.within, ready.pointer]
  exact ready.hooked.called _ _ observed offset within

/-- An observed load that goes on has pushed a value and done nothing else. -/
theorem State.step_load {frame loading : Frame} {site : Site} {callers : List Frame} {memory : Memory}
    {hookState : σ} {later : State σ} (observed : sites frame.method frame.pointer = some site)
    (ready : Frame.Ready program sites frame loading)
    (goes : step hooked hook limits ⟨loading :: callers, memory, hookState⟩ = .running later) :
    ∃ value rest, later = ⟨loading.within 1 (value :: rest) :: callers, memory, hookState⟩ := by
  obtain ⟨_, instruction, fetched, observable⟩ := ready.hooked.observable _ _ observed
  have fetched' : loading.method.code[loading.pointer]? = some instruction := by
    rw [ready.fetch, fetched, Option.map_some, Instruction.mapTarget,
      Opcode.mapTarget_of_target?_none _ (Opcode.target?_of_isObservable observable)]
  rw [step_of_fetched fetched', dispatch_of_isLocal (Opcode.isLocal_of_isObservable observable)] at goes
  split at goes
  · cases goes
  · rename_i next effect executed
    obtain ⟨value, rest, done⟩ := Frame.execute_observable observable executed
    cases done
    cases goes
    exact ⟨value, rest, rfl⟩

/-- The step of the induction: a run of instrumented code is between two instructions of the original, or
inside the inserted sequence behind one. Each step moves it on by one place, through the sequence and back out
of it. -/
theorem State.Phase.next (programs : Program.Hooked sites program hooked) {count : Nat} {state later : State σ}
    (phase : State.Phase program hooked sites hook limits start count state)
    (reached : advance (step hooked hook limits) count start = .running state)
    (goes : step hooked hook limits state = .running later) :
    State.Phase program hooked sites hook limits start (count + 1) later := by
  cases phase with
  | between related =>
    obtain ⟨ready, waiting, memory, hookState⟩ := related
    rename_i frame loading callers callers'
    cases observed : sites frame.method frame.pointer with
    | none =>
      have same : Step.Hooked program sites (step program hook limits ⟨frame :: callers, memory, hookState⟩)
          (step hooked hook limits ⟨loading :: callers', memory, hookState⟩) :=
        unobserved_step programs observed ready waiting
      rw [goes] at same
      generalize step program hook limits _ = step at same
      cases same with
      | running related => exact .between related
    | some site =>
      obtain ⟨value, rest, rfl⟩ := step_load observed ready goes
      have inside : 0 < site.hookCode.length := by
        rw [Site.length_hookCode, ValueType.hookLength]
        split <;> omega
      exact .within observed ready waiting reached goes inside (.start site value rest)
  | @within before offset site frame loading value rest stack callers callers'
      memory memory' hookState
      hookState' observed ready waiting reachedLoad load inside stage =>
    obtain ⟨fits, _⟩ := ready.hooked.observable _ _ observed
    rcases Nat.lt_or_eq_of_le (Nat.succ_le_of_lt inside) with further | last
    · obtain ⟨stack', _, _, rfl, stage'⟩ := stage.step fits (ready.holdsAt observed _) further goes
      exact .within observed ready waiting reachedLoad load further stage'
    · -- behind the last instruction of the hook code the run has caught up with the original program
      have whole : advance (step hooked hook limits) (site.hookCode.length + 1)
          ⟨loading :: callers', memory, hookState⟩ = .running later := by
        have both : before + 1 + offset + 1 = before + (site.hookCode.length + 1) := by omega
        have onward : advance (step hooked hook limits) (before + 1 + offset + 1) start = .running later := by
          rw [advance_add, reached]
          exact (advance_one ..).trans goes
        rwa [both, advance_add, reachedLoad] at onward
      have same : Step.Hooked program sites
          ((step program hook limits ⟨frame :: callers, memory, hookState⟩).andThen (showTop hook site))
          (advance (step hooked hook limits) (site.hookCode.length + 1) ⟨loading :: callers', memory, hookState⟩) :=
        observed_advance programs observed ready waiting
      rw [whole] at same
      generalize Step.andThen _ _ = shown at same
      cases same with
      | running related => exact .between related

/-- Every state that a run reaches is in one of the phases. -/
theorem State.phase_of_advance (programs : Program.Hooked sites program hooked) {original : State σ}
    (related : State.Hooked program sites original start) {count : Nat} {state : State σ}
    (reached : advance (step hooked hook limits) count start = .running state) :
    State.Phase program hooked sites hook limits start count state := by
  induction count generalizing state with
  | zero =>
    cases reached
    exact .between related
  | succ count ih =>
    have split := reached
    rw [advance_add] at split
    cases earlier : advance (step hooked hook limits) count start with
    | halted result last => rw [earlier] at split; cases split
    | running middle =>
      rw [earlier] at split
      exact (ih earlier).next programs earlier ((advance_one ..).symm.trans split)

/-- A hook call of the instrumented program comes behind an observed load, with all of its operands there. -/
theorem Site.Stage.of_callHook (stage : Site.Stage site value rest offset stack)
    (placed : HoldsAt loaded.method.code loaded.pointer site.hookCode)
    (inside : offset < site.hookCode.length) {type : ValueType}
    (called : (loaded.within offset stack).method.code[(loaded.within offset stack).pointer]?.map
      (·.opcode) = some (.callHook type)) :
    offset = site.boxing + 6 ∧ type = site.type ∧ ∃ shown, shownValue site.type shown = .ok value ∧
      (site.type.isPrimitive = true → value.isAssignable site.type) ∧
      stack = (site.operands.take 6).reverse ++ shown :: rest := by
  have here : site.hookCode[offset]? = some (.callHook type) := (placed offset inside).symm.trans called
  cases stage with
  | loaded primitive => cases (Site.hookCode_primitive primitive).1.symm.trans here
  | @operands shown count opened fits upTo =>
    rcases Nat.lt_or_eq_of_le upTo with before | rfl
    · obtain ⟨opcode, _, literalHere, literal, _⟩ := site.hookCode_operand before
      cases literalHere.symm.trans here
      cases literal
    · cases site.hookCode_call.symm.trans here
      exact ⟨rfl, rfl, shown, opened, fits, rfl⟩
  | answered primitive => cases (Site.hookCode_primitive primitive).2.1.symm.trans here

/-- The last instruction of a primitive site finds the hook's answer in a box. -/
theorem Site.Stage.of_last (stage : Site.Stage site value rest offset stack) (last : offset = 8) :
    ∃ result : Value, stack = result.box :: rest ∧ result.isAssignable site.type ∧ site.type.isPrimitive = true := by
  cases stage with
  | loaded => cases last
  | operands _ _ upTo =>
    unfold Site.boxing at last
    split at last <;> omega
  | @answered result primitive fits => exact ⟨result, rfl, fits, primitive⟩

/-- Execution is at an unboxing instruction of a site only where the hook's answer can be unboxed. -/
theorem State.Phase.unbox {count : Nat} {state : State σ}
    (phase : State.Phase program hooked sites hook limits start count state) {method : Method} {index : Nat}
    {site : Site} (declared : program.Declares method) (observed : sites method index = some site)
    (primitive : site.type.isPrimitive = true)
    (placed : state.place? = some
      (method.member, relocate (hookLength (sites method)) index + site.hookCode.length)) :
    ∃ later, step hooked hook limits state = .running later := by
  have length : hookLength (sites method) index = site.hookCode.length := by
    rw [hookLength, observed, Option.elim_some, Site.length_hookCode]
  have unique : ∀ {other : Method}, program.Declares other → other.member = method.member → other = method := by
    rintro other ⟨first, inFirst, member⟩ same
    obtain ⟨second, inSecond, member'⟩ := declared
    exact method_unique program.nodup inFirst inSecond member member' same
  cases phase with
  | between related =>
    obtain ⟨ready, waiting, memory, hookState⟩ := related
    rename_i frame loading callers callers'
    obtain ⟨sameMember, pointer⟩ := Prod.mk.inj (Option.some.inj placed)
    obtain rfl := unique ready.declared (ready.hooked.member_eq.symm.trans sameMember)
    rw [ready.pointer] at pointer
    have inside := Site.hookCode_primitive primitive
    rcases Nat.lt_trichotomy frame.pointer index with before | same | behind
    · have := @relocate_lt (hookLength (sites frame.method)) _ _ before
      omega
    · rw [same] at pointer
      omega
    · have := @relocate_lt (hookLength (sites frame.method)) _ _ behind
      omega
  | @within before offset site' frame loading value rest stack callers callers'
      memory memory' hookState
      hookState' observed' ready waiting reached load inside stage =>
    obtain ⟨sameMember, pointer⟩ := Prod.mk.inj (Option.some.inj placed)
    obtain rfl := unique ready.declared (ready.hooked.member_eq.symm.trans sameMember)
    simp only [Frame.within, ready.pointer] at pointer
    have length' : hookLength (sites frame.method) frame.pointer = site'.hookCode.length := by
      rw [hookLength, observed', Option.elim_some, Site.length_hookCode]
    rcases Nat.lt_trichotomy frame.pointer index with before | same | behind
    · have := @relocate_lt (hookLength (sites frame.method)) _ _ before
      omega
    · subst same
      cases observed.symm.trans observed'
      have last : offset = 8 := by
        rw [(Site.hookCode_primitive primitive).2.2] at pointer
        omega
      obtain ⟨result, rfl, fits, _⟩ := stage.of_last last
      subst last
      rw [step_local (Frame.holdsAt_within (ready.holdsAt observed _) (Site.hookCode_primitive primitive).2.1 _) rfl,
        Frame.execute_unbox (by rfl), box_of_isAssignable fits, if_pos primitive]
      simp only [Value.unbox, fits, if_true]
      exact ⟨_, rfl⟩
    · have := @relocate_lt (hookLength (sites frame.method)) _ _ behind
      omega

end Phases

end Faultline
