import Faultline.Proofs.Machine.Lockstep

namespace Faultline

/-- A computation that fails only in these ways, and whose result is as stated. -/
inductive Yields {α : Type} (failing : RuntimeError → Prop) (post : α → Prop) : Except RuntimeError α → Prop
  | ok {result : α} (holds : post result) : Yields failing post (.ok result)
  | error {failure : RuntimeError} (known : failing failure) : Yields failing post (.error failure)

namespace Yields

variable {α β : Type} {failing failing' : RuntimeError → Prop} {post post' : α → Prop}
  {first : Except RuntimeError α}

theorem bind {later : β → Prop} {next : α → Except RuntimeError β} (start : Yields failing post first)
    (onward : ∀ a, post a → Yields failing later (next a)) : Yields failing later (first >>= next) := by
  cases start with
  | ok holds => exact onward _ holds
  | error known => exact .error known

theorem map {later : β → Prop} {f : α → β} (start : Yields failing post first) (onward : ∀ a, post a → later (f a)) :
    Yields failing later (first.map f) := by
  cases start with
  | ok holds => exact .ok (onward _ holds)
  | error known => exact .error known

theorem mono (h : Yields failing post first) (wider : ∀ failure, failing failure → failing' failure)
    (more : ∀ a, post a → post' a) :
    Yields failing' post' first := by
  cases h with
  | ok holds => exact .ok (more _ holds)
  | error known => exact .error (wider _ known)

end Yields

/-- Whether the error is about a value that an instruction is given, or about a name or a slot that stands in it. -/
def RuntimeError.isOfOperand : RuntimeError → Bool
  | unknownClass _ | unknownField _ | invalidSlot .. | typeMismatch .. | nullReference _ | divideByZero
  | unsupported _ | value _ => true
  | _ => false

/-- A computation that fails only because of what it is given. -/
abbrev FailsOnOperands {α : Type} (result : Except RuntimeError α) : Prop :=
  Yields (fun failure => failure.isOfOperand = true) (fun _ => True) result

section Operations

theorem Value.Arithmetic.failsOnOperands (operation : Arithmetic) (a b : Value) :
    FailsOnOperands (operation.apply a b) := by
  unfold apply
  split
  case h_10 => exact .error rfl
  all_goals exact .ok trivial

theorem Value.failsOnOperands_add (a b : Value) : FailsOnOperands (a.add b) := by
  unfold Value.add
  split
  · exact .ok trivial
  · exact .ok trivial
  · exact Arithmetic.failsOnOperands _ _ _

theorem Value.failsOnOperands_div (a b : Value) : FailsOnOperands (a.div b) := by
  unfold Value.div
  split
  · exact .error rfl
  · exact Arithmetic.failsOnOperands _ _ _

theorem Value.failsOnOperands_rem (a b : Value) : FailsOnOperands (a.rem b) := by
  unfold Value.rem
  split
  · exact .error rfl
  · exact Arithmetic.failsOnOperands _ _ _

theorem Value.failsOnOperands_neg (value : Value) : FailsOnOperands value.neg := by
  unfold Value.neg
  split
  case h_4 => exact .error rfl
  all_goals exact .ok trivial

theorem Value.failsOnOperands_order (a b : Value) : FailsOnOperands (a.order b) := by
  unfold Value.order
  split
  case h_10 => exact .error rfl
  all_goals exact .ok trivial

theorem Value.failsOnOperands_unbox (value : Value) (type : ValueType) :
    FailsOnOperands ((value.unbox type).mapError .value) := by
  unfold Value.unbox
  split
  · split
    · exact .ok trivial
    · exact .error rfl
  · exact .error rfl

theorem Frame.failsOnOperands_boxTop (type : ValueType) (value : Value) :
    FailsOnOperands (Frame.boxTop type value) := by
  unfold Frame.boxTop
  split
  · exact .ok trivial
  · exact .error rfl

/-- Reading a field fails only on what the operand is, never on the stack. -/
theorem Heap.failsOnOperands_loadField (heap : Heap) (target : Value) (field : Member) :
    FailsOnOperands (heap.loadField target field) := by
  unfold Heap.loadField
  split
  · split
    · exact .ok trivial
    · exact .error rfl
  · exact .error rfl
  · exact .error rfl

/-- Finding the object to write to fails only on what the operand is. -/
theorem Heap.failsOnOperands_fieldOwner (heap : Heap) (target : Value) (field : Member) :
    FailsOnOperands (heap.fieldOwner target field) := by
  unfold Heap.fieldOwner
  split
  · split
    · exact .ok trivial
    · exact .error rfl
  · exact .error rfl
  · exact .error rfl

theorem Program.failsOnOperands_findClass (program : Program) (name : String) :
    FailsOnOperands (program.findClass name) := by
  unfold Program.findClass
  split
  · exact .ok trivial
  · exact .error rfl

theorem Program.failsOnOperands_field (program : Program) (field : Member) :
    FailsOnOperands (program.field field) := by
  refine (program.failsOnOperands_findClass field.owner).bind fun owner _ => ?_
  split
  · exact .ok trivial
  · exact .error rfl

theorem Memory.failsOnOperands_loadStatic (memory : Memory) (program : Program) (field : Member) :
    FailsOnOperands (memory.loadStatic program field) := by
  unfold Memory.loadStatic
  split
  · exact .ok trivial
  · exact (program.failsOnOperands_field field).map fun _ => id

theorem Value.failsOnOperands_toDocument (value : Value) : FailsOnOperands value.toDocument := by
  unfold Value.toDocument
  split
  · exact .ok trivial
  · exact .error rfl

theorem Value.failsOnOperands_toCoordinate (operation : String) (value : Value) :
    FailsOnOperands (value.toCoordinate operation) := by
  unfold Value.toCoordinate
  split
  · split
    · exact .error rfl
    · exact .ok trivial
  · exact .error rfl

theorem Value.failsOnOperands_toSiteId (value : Value) : FailsOnOperands value.toSiteId := by
  unfold Value.toSiteId
  split
  · split
    · exact .error rfl
    · exact .ok trivial
  · exact .error rfl

/-- Reading the operands of a hook call fails only on what they are. -/
theorem failsOnOperands_hookOperands (type : ValueType)
    (value document startLine endLine startColumn endColumn site : Value) :
    FailsOnOperands (hookOperands type value document startLine endLine startColumn endColumn site) := by
  refine document.failsOnOperands_toDocument.bind fun _ _ => ?_
  refine (startLine.failsOnOperands_toCoordinate _).bind fun _ _ => ?_
  refine (endLine.failsOnOperands_toCoordinate _).bind fun _ _ => ?_
  refine (startColumn.failsOnOperands_toCoordinate _).bind fun _ _ => ?_
  refine (endColumn.failsOnOperands_toCoordinate _).bind fun _ _ => ?_
  refine site.failsOnOperands_toSiteId.bind fun _ _ => ?_
  have shown : FailsOnOperands (shownValue type value) := by
    unfold shownValue
    split
    · exact value.failsOnOperands_unbox type
    · exact .ok trivial
  exact shown.bind fun _ _ => .ok trivial

end Operations

/-- What an instruction makes of its call: as many values as it pops and pushes come off the stack and onto
it, and the call goes on in its method where it stands. -/
structure Frame.Shifted (pops pushes : Nat) (frame frame' : Frame) : Prop where
  method : frame'.method = frame.method
  pointer : frame'.pointer = frame.pointer
  height : frame'.stack.length + pops = frame.stack.length + pushes

/-- How an instruction that takes so many values can fail: because of these, or because there are fewer. -/
inductive Frame.Refuses (frame : Frame) (needed : Nat) : RuntimeError → Prop
  | operand {failure : RuntimeError} (known : failure.isOfOperand = true) : Refuses frame needed failure
  | underflow (method : String) (index : Nat) (short : frame.stack.length < needed) :
      Refuses frame needed (.stackUnderflow method index)

namespace Frame

variable {frame frame' frame'' : Frame} {pops pushes needed : Nat}

namespace Shifted

theorem refl (frame : Frame) : Shifted 0 0 frame frame := ⟨rfl, rfl, rfl⟩

theorem trans {pops' pushes' : Nat} (h : Shifted pops pushes frame frame')
    (h' : Shifted pops' pushes' frame' frame'') :
    Shifted (pops + pops') (pushes + pushes') frame frame'' := by
  have first := h.height
  have second := h'.height
  exact ⟨h'.method.trans h.method, h'.pointer.trans h.pointer, by omega⟩

theorem push (h : Shifted pops pushes frame frame') (value : Value) :
    Shifted pops (pushes + 1) frame (frame'.push value) :=
  have pushed : Shifted 0 1 frame' (frame'.push value) := ⟨rfl, rfl, rfl⟩
  h.trans pushed

/-- One value more of those needed is popped, or there are fewer. -/
theorem pop (h : Shifted pops 0 frame frame') (more : pops < needed) :
    Yields (frame.Refuses needed) (fun popped => Shifted (pops + 1) 0 frame popped.2) frame'.pop := by
  have height := h.height
  unfold Frame.pop
  split
  · rename_i value rest stack
    rw [stack, List.length_cons] at height
    exact .ok ⟨h.method, h.pointer, by dsimp only; omega⟩
  · rename_i stack
    rw [stack, List.length_nil] at height
    exact .error (.underflow _ _ (by omega))

end Shifted

theorem yields_pop (frame : Frame) (more : 0 < needed) :
    Yields (frame.Refuses needed) (fun popped => Shifted 1 0 frame popped.2) frame.pop :=
  (Shifted.refl frame).pop more

/-- Popping several values needs that many on the stack and takes no others. -/
theorem yields_popMany (frame : Frame) (count : Nat) :
    Yields (frame.Refuses count) (fun popped => popped.1.length = count ∧ Shifted count 0 frame popped.2)
      (frame.popMany count) := by
  unfold popMany
  split
  · rename_i short
    exact .error (.underflow _ _ short)
  · rename_i enough
    have enough := Nat.le_of_not_lt enough
    exact .ok ⟨by simp [enough], rfl, rfl, by simp; omega⟩

theorem yields_operation {α : Type} {post : α → Prop} {operation : Except RuntimeError α}
    (h : Yields (fun failure => failure.isOfOperand = true) post operation) :
    Yields (frame.Refuses needed) post operation :=
  h.mono (fun _ => .operand) fun _ => id

theorem yields_unary {operation : Value → Except RuntimeError Value} (fails : ∀ a, FailsOnOperands (operation a)) :
    Yields (frame.Refuses 1) (Shifted 1 1 frame) (frame.unary operation) := by
  refine (frame.yields_pop Nat.one_pos).bind ?_
  rintro ⟨a, rest⟩ popped
  exact (yields_operation (fails a)).bind fun result _ => .ok (popped.push result)

theorem yields_binary {operation : Value → Value → Except RuntimeError Value}
    (fails : ∀ a b, FailsOnOperands (operation a b)) :
    Yields (frame.Refuses 2) (Shifted 2 1 frame) (frame.binary operation) := by
  refine (frame.yields_pop Nat.two_pos).bind ?_
  rintro ⟨b, above⟩ popped
  refine (popped.pop Nat.one_lt_two).bind ?_
  rintro ⟨a, rest⟩ popped
  exact (yields_operation (fails a b)).bind fun result _ => .ok (popped.push result)

theorem yields_setSlot (frame : Frame) (kind : SlotKind) (slot : UInt16) (value : Value) :
    Yields (fun failure => failure.isOfOperand = true) (Shifted 0 0 frame) (frame.setSlot kind slot value) := by
  unfold setSlot
  split
  · cases kind <;> exact .ok ⟨rfl, rfl, rfl⟩
  · exact .error rfl

theorem failsOnOperands_getSlot (frame : Frame) (kind : SlotKind) (slot : UInt16) :
    FailsOnOperands (frame.getSlot kind slot) := by
  unfold getSlot
  split
  · exact .ok trivial
  · exact .error rfl

/-- A branch pops its condition and leaves the call where it stands or at the target. -/
theorem yields_branch (frame : Frame) (wanted : Bool) (target : Nat) :
    Yields (frame.Refuses 1)
      (fun done => ∃ rest, Shifted 1 0 frame rest ∧ (done = rest ∨ done = { rest with pointer := target }))
      (frame.branch wanted target) := by
  refine (frame.yields_pop Nat.one_pos).bind ?_
  rintro ⟨condition, rest⟩ popped
  refine .ok ⟨rest, popped, ?_⟩
  split
  · exact Or.inr rfl
  · exact Or.inl rfl

/-- What leaves the memory as it is. -/
theorem yields_quiet {done : Except RuntimeError Frame}
    (h : Yields (frame.Refuses pops) (Shifted pops pushes frame) done) :
    Yields (frame.Refuses pops) (fun done => Shifted pops pushes frame done.1)
      (done >>= fun frame => .ok (frame, Memory.Effect.none)) :=
  h.bind fun _ shifted => .ok shifted

theorem yields_quiet_push {value : Except RuntimeError Value} (h : FailsOnOperands value) :
    Yields (frame.Refuses 0) (fun done => Shifted 0 1 frame done.1)
      (value >>= fun value => .ok (frame.push value, Memory.Effect.none)) :=
  (yields_operation h).bind fun value _ => .ok ((Shifted.refl frame).push value)

/-- An instruction that is no jump takes off the stack and puts onto it what its effect says, or fails because
of what it takes. -/
theorem yields_execute (frame : Frame) (program : Program) (memory : Memory) {opcode : Opcode}
    (effect : opcode.effect? = some (pops, pushes)) (straight : opcode.target? = none) :
    Yields (frame.Refuses pops) (fun done => Shifted pops pushes frame done.1)
      (frame.execute program memory opcode) := by
  have pushed (value : Value) :
      Yields (frame.Refuses 0) (fun done : Frame × Memory.Effect => Shifted 0 1 frame done.1)
      (.ok (frame.push value, .none)) := .ok ((Shifted.refl frame).push value)
  cases opcode <;> cases effect
  case nop => exact .ok (.refl frame)
  case loadNull | loadInt32 | loadInt64 | loadFloat64 | loadBool | loadChar | loadString => exact pushed _
  case loadLocal slot => exact yields_quiet_push (frame.failsOnOperands_getSlot .local slot)
  case loadArg slot => exact yields_quiet_push (frame.failsOnOperands_getSlot .argument slot)
  case storeLocal slot =>
    refine (frame.yields_pop Nat.one_pos).bind ?_
    rintro ⟨value, rest⟩ popped
    exact (yields_operation (rest.yields_setSlot .local slot value)).bind fun _ stored => .ok (popped.trans stored)
  case storeArg slot =>
    refine (frame.yields_pop Nat.one_pos).bind ?_
    rintro ⟨value, rest⟩ popped
    exact (yields_operation (rest.yields_setSlot .argument slot value)).bind fun _ stored => .ok (popped.trans stored)
  case loadField field => exact yields_quiet (yields_unary (memory.heap.failsOnOperands_loadField · field))
  case storeField field =>
    refine (frame.yields_pop Nat.two_pos).bind ?_
    rintro ⟨value, above⟩ popped
    refine (popped.pop Nat.one_lt_two).bind ?_
    rintro ⟨target, rest⟩ popped
    exact (yields_operation (memory.heap.failsOnOperands_fieldOwner target field)).bind fun _ _ => .ok popped
  case loadStaticField field => exact yields_quiet_push (memory.failsOnOperands_loadStatic program field)
  case storeStaticField field =>
    refine (frame.yields_pop Nat.one_pos).bind ?_
    rintro ⟨value, rest⟩ popped
    exact (yields_operation (program.failsOnOperands_field field)).bind fun _ _ => .ok popped
  case dup =>
    refine (frame.yields_pop Nat.one_pos).bind ?_
    rintro ⟨value, rest⟩ popped
    exact .ok ((popped.push value).push value)
  case pop => exact (frame.yields_pop Nat.one_pos).bind fun _ popped => .ok popped
  case add => exact yields_quiet (yields_binary Value.failsOnOperands_add)
  case sub | mul => exact yields_quiet (yields_binary (Value.Arithmetic.failsOnOperands _))
  case div => exact yields_quiet (yields_binary Value.failsOnOperands_div)
  case rem => exact yields_quiet (yields_binary Value.failsOnOperands_rem)
  case compareEqual => exact yields_quiet (yields_binary fun _ _ => .ok trivial)
  case compareLess | compareGreater =>
    exact yields_quiet (yields_binary fun a b => (a.failsOnOperands_order b).map fun _ _ => trivial)
  case neg => exact yields_quiet (yields_unary Value.failsOnOperands_neg)
  case not => exact yields_quiet (yields_unary fun _ => .ok trivial)
  case newObject className =>
    exact (yields_operation (program.failsOnOperands_findClass className)).bind fun _ _ =>
      .ok ((Shifted.refl frame).push _)
  case box type => exact yields_quiet (yields_unary (failsOnOperands_boxTop type))
  case unbox type => exact yields_quiet (yields_unary (·.failsOnOperands_unbox type))
  case jump | jumpIfTrue | jumpIfFalse => cases straight
  all_goals exact .error (.operand rfl)

/-- A hook call takes its seven operands. -/
theorem yields_popHookCall (frame : Frame) (type : ValueType) :
    Yields (frame.Refuses 7) (fun popped => Shifted 7 0 frame popped.2) (frame.popHookCall type) := by
  rw [popHookCall_eq]
  match stack : frame.stack with
  | site :: endColumn :: startColumn :: endLine :: startLine :: document :: value :: rest =>
    exact (yields_operation (failsOnOperands_hookOperands ..)).map fun _ _ => ⟨rfl, rfl, by rw [stack]; rfl⟩
  | [] | [_] | [_, _] | [_, _, _] | [_, _, _, _] | [_, _, _, _, _] | [_, _, _, _, _, _] =>
    exact .error (.underflow _ _ (by simp [stack]))

end Frame

/-- How a call of a method can be refused. -/
inductive Method.Refuses (method : Method) (args : List Value) : RuntimeError → Prop
  | noBody : Refuses method args (.noBody method.qualifiedName)
  | argumentCount (differs : args.length ≠ method.argCount) :
      Refuses method args (.argumentCount method.qualifiedName method.argCount args.length)
  | stackOverflow (depth : Nat) : Refuses method args (.stackOverflow depth)

/-- A call refuses a wrong number of arguments, a missing body or the depth, and otherwise adds one frame. -/
theorem yields_enterCall (limits : Limits) (method : Method) (args : List Value) (frames : List Frame) :
    Yields (method.Refuses args) (fun entered => method.body.isSome ∧ entered = Frame.enter method args :: frames)
      (enterCall limits method args frames) := by
  unfold enterCall
  split
  · exact .error .noBody
  · rename_i present
    split
    · rename_i differs
      exact .error (.argumentCount (by simpa using differs))
    · split
      · exact .error (.stackOverflow _)
      · exact .ok ⟨by simpa [Option.isSome_iff_ne_none] using present, rfl⟩

end Faultline
