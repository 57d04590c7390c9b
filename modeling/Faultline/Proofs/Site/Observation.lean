import Faultline.Proofs.Machine.Dispatch
import Faultline.Proofs.Machine.Lockstep
import Faultline.Proofs.Site.Numbering

namespace Faultline

variable {σ : Type}

namespace State

/-- Calls the hook on a value and resumes with its answer, which must fit the type; a refusal or an answer that
does not fit ends the run. -/
def consult (hook : Hook σ) (point : HookPoint) (value : Value) (frame : Frame) (resume : Value → Frame)
    (callers : List Frame) (memory : Memory) (hookState : σ) : Step σ :=
  let (answer, hookState, heap) := hook point value hookState memory.heap
  let memory := { memory with heap }
  match answer with
  | .error reason => .halted (.error (.hook point.site reason)) ⟨frame :: callers, memory, hookState⟩
  | .ok result =>
    if result.isAssignable point.type then .running ⟨resume result :: callers, memory, hookState⟩
    else .halted (.error (.hookResultType point.site point.type result.describe))
      ⟨frame :: callers, memory, hookState⟩

/-- Shows the value on top of the operand stack to the hook as what a site saw, and puts the hook's answer in its
place. A value that should be primitive and is not of the site's type is refused before the hook is called. -/
def showTop (hook : Hook σ) (site : Site) (state : State σ) : Step σ :=
  match state with
  | ⟨frame :: callers, memory, hookState⟩ =>
    match frame.stack with
    | value :: rest =>
      if site.type.isPrimitive && !value.isAssignable site.type then
        .halted (.error (.typeMismatch "box" s!"{value.describe} is not {site.type.text}")) state
      else
        consult hook ⟨site.id, site.type, site.location⟩ value frame
          (fun result => { frame with stack := result :: rest }) callers memory hookState
    | [] => .running state
  | _ => .running state

/-- Executes an instruction and, if it is a site and execution goes on, lets `watch` have the state. -/
def watched (next : State σ → Step σ) (sites : Sites) (watch : Site → State σ → Step σ) (state : State σ) : Step σ :=
  match state.frames with
  | [] => next state
  | frame :: _ =>
    match sites frame.method frame.pointer with
    | none => next state
    | some site => (next state).andThen (watch site)

/-- The state with the instruction pointer of the innermost call moved on. -/
def skip (count : Nat) (state : State σ) : State σ :=
  match state.frames with
  | [] => state
  | frame :: callers => { state with frames := { frame with pointer := frame.pointer + count } :: callers }

end State

/-- Steps that agree but for the instructions skipped in the second, and in a halt for the calls left over. -/
inductive Step.Skips (count : Nat) : Step σ → Step σ → Prop
  | running (state : State σ) : Skips count (.running state) (.running (state.skip count))
  | halted (result : Except RuntimeError (Option Value)) (memory : Memory) (hookState : σ)
      (frames frames' : List Frame) :
      Skips count (.halted result ⟨frames, memory, hookState⟩) (.halted result ⟨frames', memory, hookState⟩)

theorem Step.Skips.running_of_eq {count : Nat} {state later : State σ} (same : later = state.skip count) :
    Step.Skips count (.running state) (.running later) := by
  rw [same]
  exact .running state

/-- Whether code has the given opcodes from a place on. -/
def HoldsAt (code : Array Instruction) (place : Nat) (opcodes : List Opcode) : Prop :=
  ∀ offset, offset < opcodes.length → code[place + offset]?.map (·.opcode) = opcodes[offset]?

namespace HoldsAt

variable {code : Array Instruction} {place : Nat} {opcode : Opcode} {opcodes later : List Opcode}

theorem head (h : HoldsAt code place (opcode :: opcodes)) :
    ∃ instruction, code[place]? = some instruction ∧ instruction.opcode = opcode := by
  have first := h 0 (Nat.succ_pos _)
  rw [Nat.add_zero, List.getElem?_cons_zero] at first
  exact Option.map_eq_some_iff.1 first

theorem tail (h : HoldsAt code place (opcode :: opcodes)) : HoldsAt code (place + 1) opcodes := by
  intro offset within
  have next := h (offset + 1) (Nat.succ_lt_succ within)
  rw [List.getElem?_cons_succ] at next
  rw [← next]
  congr 2
  omega

theorem append_left (h : HoldsAt code place (opcodes ++ later)) : HoldsAt code place opcodes := by
  intro offset within
  rw [h offset (by rw [List.length_append]; omega), List.getElem?_append_left within]

theorem append_right (h : HoldsAt code place (opcodes ++ later)) : HoldsAt code (place + opcodes.length) later := by
  intro offset within
  have there := h (opcodes.length + offset) (by rw [List.length_append]; omega)
  rw [Nat.add_assoc, there, List.getElem?_append_right (by omega)]
  congr 1
  omega

end HoldsAt

/-- The value that an opcode of a hook sequence pushes. -/
def Opcode.literal? : Opcode → Option Value
  | loadString s => some (.string s)
  | loadInt32 n => some (.int32 n)
  | loadInt64 n => some (.int64 n)
  | _ => none

namespace State

variable {program : Program} {hook : Hook σ} {limits : Limits} {frame : Frame} {callers : List Frame}
  {memory : Memory} {hookState : σ}

theorem step_local {opcode : Opcode} {opcodes : List Opcode}
    (placed : HoldsAt frame.method.code frame.pointer (opcode :: opcodes)) (own : opcode.isLocal) :
    step program hook limits ⟨frame :: callers, memory, hookState⟩ =
      match { frame with pointer := frame.pointer + 1 }.execute program memory opcode with
      | .error failure =>
        .halted (.error failure) ⟨{ frame with pointer := frame.pointer + 1 } :: callers, memory, hookState⟩
      | .ok (frame, effect) => .running ⟨frame :: callers, memory.perform effect, hookState⟩ := by
  obtain ⟨instruction, fetched, rfl⟩ := placed.head
  exact (step_of_fetched fetched).trans (dispatch_of_isLocal own)

theorem step_literal {opcode : Opcode} {opcodes : List Opcode} {value : Value}
    (placed : HoldsAt frame.method.code frame.pointer (opcode :: opcodes)) (literal : opcode.literal? = some value) :
    step program hook limits ⟨frame :: callers, memory, hookState⟩ =
      .running ⟨{ frame with pointer := frame.pointer + 1, stack := value :: frame.stack } :: callers, memory,
        hookState⟩ := by
  cases opcode <;> cases literal <;> exact step_local placed rfl

/-- A run of literals pushes their values, the last on top. -/
theorem advance_literals {opcodes : List Opcode} {values : List Value}
    (literals : List.Forall₂ (fun opcode value => opcode.literal? = some value) opcodes values)
    (placed : HoldsAt frame.method.code frame.pointer opcodes) :
    advance (step program hook limits) opcodes.length ⟨frame :: callers, memory, hookState⟩ =
      .running ⟨{ frame with pointer := frame.pointer + opcodes.length, stack := values.reverse ++ frame.stack } ::
        callers, memory, hookState⟩ := by
  induction literals generalizing frame with
  | nil => rfl
  | @cons opcode value opcodes values here _ ih =>
    rw [List.length_cons, advance, step_literal placed here, Step.andThen, ih placed.tail]
    simp only [List.reverse_cons, List.append_assoc, List.cons_append, List.nil_append, Nat.add_assoc, Nat.add_comm 1]

end State

section Literals

/-- A coordinate of at most 31 bits is read back from its literal. -/
theorem toCoordinate_literal {n : UInt32} (fits : n ≤ 0x7FFFFFFF) (operation : String) :
    (Value.int32 n.toInt32).toCoordinate operation = .ok n := by
  have small : n.toNat ≤ 2147483647 := by simpa [UInt32.le_iff_toNat_le] using fits
  have value : n.toInt32.toInt = n.toNat := by
    change n.toBitVec.toInt = n.toBitVec.toNat
    have : n.toBitVec.toNat = n.toNat := rfl
    rw [BitVec.toInt_eq_toNat_of_lt]
    omega
  have positive : ¬ n.toInt32 < 0 := by
    rw [Int32.lt_iff_toInt_lt, value]
    simp
  simp only [Value.toCoordinate, if_neg positive]
  rfl

/-- Every site id is read back from its literal. -/
theorem toSiteId_literal (id : UInt32) : (Value.int64 id.toUInt64.toInt64).toSiteId = .ok id := by
  have small := id.toNat_lt
  have value : id.toUInt64.toInt64.toInt = id.toNat := by
    change id.toUInt64.toBitVec.toInt = id.toNat
    have : id.toUInt64.toBitVec.toNat = id.toNat := by simp
    rw [BitVec.toInt_eq_toNat_of_lt] <;> omega
  have positive : ¬ id.toUInt64.toInt64 < 0 := by
    rw [Int64.lt_iff_toInt_lt, value]
    simp
  have within : ¬ 0xFFFFFFFF < id.toUInt64.toInt64 := by
    rw [Int64.lt_iff_toInt_lt, value]
    have : (4294967295 : Int64).toInt = 4294967295 := rfl
    omega
  simp only [Value.toSiteId, positive, within, decide_false, Bool.or_false]
  simp

end Literals

namespace Frame

variable {program : Program} {memory : Memory} {frame : Frame} {value : Value} {rest : List Value}
  {type : ValueType}

theorem execute_box (stack : frame.stack = value :: rest) :
    frame.execute program memory (.box type) =
      (boxTop type value).map fun result => ({ frame with stack := result :: rest }, .none) := by
  change (frame.unary (boxTop type) >>= fun moved => .ok (moved, Memory.Effect.none)) = _
  simp only [unary, pop, stack, bind, Except.bind]
  cases boxTop type value <;> rfl

theorem execute_unbox (stack : frame.stack = value :: rest) :
    frame.execute program memory (.unbox type) =
      ((value.unbox type).mapError .value).map fun result => ({ frame with stack := result :: rest }, .none) := by
  change (frame.unary (fun value => (value.unbox type).mapError .value) >>=
    fun moved => .ok (moved, Memory.Effect.none)) = _
  simp only [unary, pop, stack, bind, Except.bind]
  cases value.unbox type <;> rfl

end Frame

namespace Site

variable {site : Site}

/-- What the operands of a site's hook call push. -/
def operands (site : Site) : List Value :=
  [.string site.location.document, .int32 site.location.startLine.toInt32, .int32 site.location.endLine.toInt32,
    .int32 site.location.startColumn.toInt32, .int32 site.location.endColumn.toInt32, .int64 site.id.toUInt64.toInt64]

theorem hookCall_eq (site : Site) : ∃ opcodes, site.hookCall = opcodes ++ [.callHook site.type] ∧
    List.Forall₂ (fun opcode value => opcode.literal? = some value) opcodes site.operands :=
  ⟨_, rfl, .cons rfl (.cons rfl (.cons rfl (.cons rfl (.cons rfl (.cons rfl .nil)))))⟩

theorem popHookCall_operands (fits : site.Fits) {frame : Frame} {shown value : Value} {rest : List Value}
    (stack : frame.stack = site.operands.reverse ++ shown :: rest) (opened : shownValue site.type shown = .ok value) :
    frame.popHookCall site.type = .ok ((⟨site.id, site.type, site.location⟩, value),
      { frame with stack := rest }) := by
  rw [Frame.popHookCall_eq, stack]
  simp only [operands, List.reverse_cons, List.reverse_nil, List.nil_append, List.cons_append, hookOperands,
    Value.toDocument, toCoordinate_literal fits.startLine, toCoordinate_literal fits.endLine,
    toCoordinate_literal fits.startColumn, toCoordinate_literal fits.endColumn, toSiteId_literal, opened]
  rfl

end Site

namespace State

variable {program : Program} {hook : Hook σ} {limits : Limits} {frame : Frame} {callers : List Frame}
  {memory : Memory} {hookState : σ} {site : Site}

/-- The operands of a hook call and the call itself consult the hook on the value below them. -/
theorem advance_hookCall (fits : site.Fits) {shown value : Value} {rest : List Value}
    (placed : HoldsAt frame.method.code frame.pointer site.hookCall) (stack : frame.stack = shown :: rest)
    (opened : shownValue site.type shown = .ok value) :
    advance (step program hook limits) site.hookCall.length ⟨frame :: callers, memory, hookState⟩ =
      consult hook ⟨site.id, site.type, site.location⟩ value
        { frame with pointer := frame.pointer + site.hookCall.length, stack := rest }
        (fun result => { frame with pointer := frame.pointer + site.hookCall.length, stack := result.box :: rest })
        callers memory hookState := by
  obtain ⟨opcodes, code, literals⟩ := site.hookCall_eq
  rw [code] at placed ⊢
  rw [List.length_append, advance_add, advance_literals literals placed.append_left]
  obtain ⟨instruction, fetched, called⟩ := placed.append_right.head
  simp only [Step.andThen, List.length_singleton, advance]
  rw [step_of_fetched fetched, called]
  simp only [dispatch, observe]
  rw [Site.popHookCall_operands fits (by rw [stack]) opened]
  simp only [consult]
  generalize hook _ value hookState memory.heap = answered
  obtain ⟨answer, hookState', heap⟩ := answered
  cases answer with
  | error reason => rfl
  | ok result =>
    by_cases fit : result.isAssignable site.type
    · simp only [if_pos fit]
      rfl
    · simp only [if_neg fit]
      rfl

theorem box_of_isAssignable {value : Value} {type : ValueType} (fit : value.isAssignable type) :
    value.box = if type.isPrimitive then .boxed value else value := by
  cases value <;> cases type <;> first | rfl | cases fit

/-- A value of a reference type is shown as it is. -/
theorem advance_hookCode_reference (fits : site.Fits) {value : Value} {rest : List Value}
    (placed : HoldsAt frame.method.code frame.pointer site.hookCode) (stack : frame.stack = value :: rest)
    (reference : site.type.isPrimitive = false) :
    Step.Skips site.hookCode.length (showTop hook site ⟨frame :: callers, memory, hookState⟩)
      (advance (step program hook limits) site.hookCode.length ⟨frame :: callers, memory, hookState⟩) := by
  have code : site.hookCode = site.hookCall := by simp only [Site.hookCode, reference, Bool.false_eq_true, if_false]
  have opened : shownValue site.type value = .ok value := by
    simp only [shownValue, reference, Bool.false_eq_true, if_false]
  rw [code] at placed ⊢
  rw [advance_hookCall fits placed stack opened]
  simp only [showTop, stack, reference, Bool.false_and, Bool.false_eq_true, if_false, consult]
  generalize hook _ value hookState memory.heap = answered
  obtain ⟨answer, hookState', heap⟩ := answered
  cases answer with
  | error reason => exact .halted ..
  | ok result =>
    by_cases fit : result.isAssignable site.type
    · simp only [if_pos fit, box_of_isAssignable fit, reference, Bool.false_eq_true, if_false]
      exact Step.Skips.running_of_eq rfl
    · simp only [if_neg fit]
      exact .halted ..

/-- A value of a primitive type is boxed before it is shown, which fails if it is not of the type, and unboxed
after. -/
theorem advance_hookCode_primitive (fits : site.Fits) {value : Value} {rest : List Value}
    (placed : HoldsAt frame.method.code frame.pointer site.hookCode) (stack : frame.stack = value :: rest)
    (primitive : site.type.isPrimitive) :
    Step.Skips site.hookCode.length (showTop hook site ⟨frame :: callers, memory, hookState⟩)
      (advance (step program hook limits) site.hookCode.length ⟨frame :: callers, memory, hookState⟩) := by
  have code : site.hookCode = .box site.type :: (site.hookCall ++ [.unbox site.type]) := by
    simp only [Site.hookCode, primitive, if_true, List.cons_append]
  rw [code] at placed ⊢
  simp only [showTop, stack]
  by_cases fit : value.isAssignable site.type
  · simp only [primitive, fit, Bool.not_true, Bool.and_false, Bool.false_eq_true, if_false]
    have boxed : value.box = .boxed value := by rw [box_of_isAssignable fit, if_pos primitive]
    have boxing : step program hook limits ⟨frame :: callers, memory, hookState⟩ =
        .running ⟨{ frame with pointer := frame.pointer + 1, stack := .boxed value :: rest } :: callers,
          memory, hookState⟩ := by
      rw [step_local placed rfl, Frame.execute_box (by exact stack)]
      simp only [Frame.boxTop, if_pos fit, boxed]
      rfl
    have opened : shownValue site.type (.boxed value) = .ok value := by
      simp only [shownValue, primitive, if_true, Value.unbox, fit]
      rfl
    rw [List.length_cons, advance, boxing, Step.andThen, List.length_append, advance_add,
      advance_hookCall fits placed.tail.append_left rfl opened]
    simp only [consult]
    generalize hook _ value hookState memory.heap = answered
    obtain ⟨answer, hookState', heap⟩ := answered
    cases answer with
    | error reason => exact .halted ..
    | ok result =>
      by_cases fit : result.isAssignable site.type
      · simp only [if_pos fit, Step.andThen, List.length_singleton, advance]
        rw [step_local placed.tail.append_right rfl, Frame.execute_unbox (by rfl)]
        simp only [box_of_isAssignable fit, if_pos primitive, Value.unbox, if_pos fit]
        exact Step.Skips.running_of_eq rfl
      · simp only [if_neg fit]
        exact .halted ..
  · simp only [primitive, fit, Bool.not_false, Bool.and_self, if_true]
    have refusal : step program hook limits ⟨frame :: callers, memory, hookState⟩ =
        .halted (.error (.typeMismatch "box" s!"{value.describe} is not {site.type.text}"))
          ⟨{ frame with pointer := frame.pointer + 1 } :: callers, memory, hookState⟩ := by
      rw [step_local placed rfl, Frame.execute_box (by exact stack)]
      simp only [Frame.boxTop, if_neg fit]
      rfl
    rw [List.length_cons, advance, refusal, Step.andThen]
    exact .halted ..

/-- Behind an observed load the instructions of its site do to the state what the site stands for. -/
theorem advance_hookCode (fits : site.Fits) {value : Value} {rest : List Value}
    (placed : HoldsAt frame.method.code frame.pointer site.hookCode) (stack : frame.stack = value :: rest) :
    Step.Skips site.hookCode.length (showTop hook site ⟨frame :: callers, memory, hookState⟩)
      (advance (step program hook limits) site.hookCode.length ⟨frame :: callers, memory, hookState⟩) := by
  cases primitive : site.type.isPrimitive with
  | true => exact advance_hookCode_primitive fits placed stack primitive
  | false => exact advance_hookCode_reference fits placed stack primitive

end State

end Faultline
