import Faultline.Proofs.Machine.Linking
import Faultline.Proofs.Machine.Matching

namespace Faultline

section Memories

variable {pairing : Nat → Nat → Prop} {memory memory' : Memory} {target target' : Value}

theorem Memory.Alike.field? (h : Memory.Alike pairing memory memory') {a b : Nat} (paired : pairing a b)
    (className name : String) :
    (memory.heap.field? ⟨a, className⟩ name = none ∧ memory'.heap.field? ⟨b, className⟩ name = none) ∨
      ∃ value value', memory.heap.field? ⟨a, className⟩ name = some value ∧
        memory'.heap.field? ⟨b, className⟩ name = some value' ∧ Value.Alike pairing value value' :=
  (h.fields a b paired).get? name

/-- A field read through alike references gives alike values, or the same failure. -/
theorem Memory.Alike.loadField (h : Memory.Alike pairing memory memory') (alike : Value.Alike pairing target target')
    (field : Member) :
    Agree RuntimeError.Plain (Value.Alike pairing) (memory.heap.loadField target field)
      (memory'.heap.loadField target' field) := by
  have described := alike.describe_eq
  cases alike with
  | object className paired =>
    rcases h.field? paired className field.name with ⟨absent, absent'⟩ | ⟨value, value', found, found', same⟩
    · simp only [Heap.loadField, absent, absent']
      exact .error ⟨rfl, rfl⟩
    · simp only [Heap.loadField, found, found']
      exact .ok same
  | _ => simp only [Heap.loadField, described]; exact .error ⟨rfl, rfl⟩

/-- References to paired objects of one class. -/
def Reference.Paired (pairing : Nat → Nat → Prop) (reference reference' : Reference) : Prop :=
  pairing reference.id reference'.id ∧ reference'.className = reference.className

/-- Alike references lead to paired objects, or fail alike. -/
theorem Memory.Alike.fieldOwner (h : Memory.Alike pairing memory memory') (alike : Value.Alike pairing target target')
    (field : Member) :
    Agree RuntimeError.Plain (Reference.Paired pairing) (memory.heap.fieldOwner target field)
      (memory'.heap.fieldOwner target' field) := by
  have described := alike.describe_eq
  cases alike with
  | object className paired =>
    rcases h.field? paired className field.name with ⟨absent, absent'⟩ | ⟨value, value', found, found', same⟩
    · simp only [Heap.fieldOwner, absent, absent']
      exact .error ⟨rfl, rfl⟩
    · simp only [Heap.fieldOwner, found, found']
      exact .ok ⟨paired, rfl⟩
  | _ => simp only [Heap.fieldOwner, described]; exact .error ⟨rfl, rfl⟩

/-- The text of an exception is read off the object, so alike exceptions have the same text. -/
theorem Memory.Alike.exceptionText_eq (h : Memory.Alike pairing memory memory')
    (alike : Value.Alike pairing target target') :
    memory'.heap.exceptionText target' = memory.heap.exceptionText target := by
  have texts := alike.text_eq
  cases alike with
  | object className paired =>
    rcases h.field? paired className "message" with ⟨absent, absent'⟩ | ⟨value, value', found, found', same⟩
    · simp only [Heap.exceptionText, absent, absent']
    · simp only [Heap.exceptionText, found, found']
      cases same <;> rfl
  | boxed _ => exact texts
  | _ => rfl

theorem ValueType.default_alike (type : ValueType) : Value.Alike pairing type.default type.default := by
  cases type <;> constructor

theorem Class.initialFields_alike (declared : Class) :
    Fields.Alike pairing declared.initialFields declared.initialFields := by
  refine List.forall₂_same.2 fun entry member => ⟨rfl, ?_⟩
  obtain ⟨field, _, rfl⟩ := List.mem_map.1 (Table.mem_ofList member)
  exact field.type.default_alike

/-- Programs that declare the same fields. -/
def Program.SameClasses (program program' : Program) : Prop :=
  ∀ name, program'.findClass name = program.findClass name

theorem Program.SameClasses.field_eq {program program' : Program} (same : program.SameClasses program')
    (field : Member) :
    program'.field field = program.field field := by
  rw [Program.field, Program.field, same field.owner]

theorem Program.plain_of_findClass {program : Program} {name : String} {failure : RuntimeError}
    (missing : program.findClass name = .error failure) : failure.isPlain := by
  unfold Program.findClass at missing
  split at missing <;> cases missing
  rfl

/-- A field that cannot be found is reported by name only. -/
theorem Program.plain_of_field {program : Program} {field : Member} {failure : RuntimeError}
    (missing : program.field field = .error failure) : failure.isPlain := by
  unfold Program.field at missing
  cases owner : program.findClass field.owner with
  | error unknown =>
    rw [owner] at missing
    cases missing
    exact Program.plain_of_findClass owner
  | ok declared =>
    rw [owner] at missing
    simp only [bind, Except.bind] at missing
    split at missing <;> cases missing
    rfl

theorem Program.plain_of_method {program : Program} {name : Member} {failure : RuntimeError}
    (missing : program.method name = .error failure) : failure.isPlain := by
  unfold Program.method at missing
  split at missing <;> cases missing
  rfl

/-- A static field read in alike memories gives alike values, also where it still has its default. -/
theorem Memory.Alike.loadStatic (h : Memory.Alike pairing memory memory') {program program' : Program}
    (classes : program.SameClasses program') (field : Member) :
    Agree RuntimeError.Plain (Value.Alike pairing) (memory.loadStatic program field)
      (memory'.loadStatic program' field) := by
  unfold Memory.loadStatic
  rcases h.statics.get? field with ⟨absent, absent'⟩ | ⟨value, value', found, found', same⟩
  · simp only [absent, absent', classes.field_eq]
    cases declared : program.field field with
    | error failure => exact .error ⟨rfl, Program.plain_of_field declared⟩
    | ok field => exact .ok field.type.default_alike
  · simp only [found, found']
    exact .ok same

/-- Changes to two memories that are the same but for the pairing of objects. -/
inductive Memory.Effect.Alike (pairing : Nat → Nat → Prop) : Memory.Effect → Memory.Effect → Prop
  | none : Alike pairing .none .none
  | create (className : String) {fields : Fields} (own : ∀ pairing, Fields.Alike pairing fields fields) :
      Alike pairing (.create className fields) (.create className fields)
  | setField {reference reference' : Reference} (name : String) {value value' : Value}
      (owner : Reference.Paired pairing reference reference') (content : Value.Alike pairing value value') :
      Alike pairing (.setField reference name value) (.setField reference' name value')
  | setStatic (field : Member) {value value' : Value} (content : Value.Alike pairing value value') :
      Alike pairing (.setStatic field value) (.setStatic field value')

/-- The pairing once an effect has taken place: objects created together are paired. -/
def Memory.Effect.grow (effect : Memory.Effect) (pairing : Nat → Nat → Prop) (heap heap' : Heap) : Nat → Nat → Prop :=
  match effect with
  | .create .. => fun a b => pairing a b ∨ (a = heap.size ∧ b = heap'.size)
  | _ => pairing

end Memories

namespace Frame.Matches

variable {matching : Matching} {pairing : Nat → Nat → Prop} {frame frame' : Frame}

theorem fails {failure failure' : RuntimeError} (same : failure.Plain failure') :
    matching.failure failure failure' := by
  obtain ⟨rfl, plain⟩ := same
  exact matching.plain _ plain

theorem unary (h : Frame.Matches matching pairing frame frame')
    {operation operation' : Value → Except RuntimeError Value}
    (respects : ∀ a a', Value.Alike pairing a a' →
      Agree RuntimeError.Plain (Value.Alike pairing) (operation a) (operation' a')) :
    Agree matching.failure (Frame.Matches matching pairing) (frame.unary operation) (frame'.unary operation') := by
  refine h.pop.bind ?_
  rintro ⟨a, rest⟩ ⟨a', rest'⟩ ⟨alike, same⟩
  refine ((respects a a' alike).mono (fun _ _ => fails) fun _ _ => id).bind ?_
  intro b b' result
  exact .ok (same.push result)

/-- An operation on two values that respects likeness does so on the operand stack. -/
theorem binary (h : Frame.Matches matching pairing frame frame')
    {operation operation' : Value → Value → Except RuntimeError Value}
    (respects : ∀ a a' b b', Value.Alike pairing a a' → Value.Alike pairing b b' →
      Agree RuntimeError.Plain (Value.Alike pairing) (operation a b) (operation' a' b')) :
    Agree matching.failure (Frame.Matches matching pairing) (frame.binary operation) (frame'.binary operation') := by
  refine h.pop.bind ?_
  rintro ⟨b, above⟩ ⟨b', above'⟩ ⟨second, same⟩
  refine same.pop.bind ?_
  rintro ⟨a, rest⟩ ⟨a', rest'⟩ ⟨first, same⟩
  refine ((respects a a' b b' first second).mono (fun _ _ => fails) fun _ _ => id).bind ?_
  intro c c' result
  exact .ok (same.push result)

/-- What executing one instruction on either side has in common afterwards. -/
def Executed (matching : Matching) (pairing : Nat → Nat → Prop) (heap heap' : Heap)
    (done done' : Frame × Memory.Effect) : Prop :=
  Memory.Effect.Alike pairing done.2 done'.2 ∧
    Frame.Matches matching (done.2.grow pairing heap heap') done.1 done'.1

theorem quiet {heap heap' : Heap} {done : Except RuntimeError Frame} {done' : Except RuntimeError Frame}
    (h : Agree matching.failure (Frame.Matches matching pairing) done done') :
    Agree matching.failure (Executed matching pairing heap heap') (done >>= fun frame => .ok (frame, .none))
      (done' >>= fun frame => .ok (frame, .none)) :=
  h.bind fun _ _ same => .ok ⟨.none, same⟩

theorem quiet_push {heap heap' : Heap} {value value' : Except RuntimeError Value}
    (h : Frame.Matches matching pairing frame frame')
    (alike : Agree matching.failure (Value.Alike pairing) value value') :
    Agree matching.failure (Executed matching pairing heap heap')
      (value >>= fun value => .ok (frame.push value, .none))
      (value' >>= fun value => .ok (frame'.push value, .none)) :=
  alike.bind fun _ _ same => .ok ⟨.none, h.push same⟩

/-- An instruction that is no jump does the same at corresponding places. -/
theorem execute {program program' : Program} (classes : program.SameClasses program')
    {memory memory' : Memory} (memories : Memory.Alike pairing memory memory')
    (h : Frame.Matches matching pairing frame frame') {opcode : Opcode} (straight : opcode.target? = none) :
    Agree matching.failure (Executed matching pairing memory.heap memory'.heap)
      (frame.execute program memory opcode) (frame'.execute program' memory' opcode) := by
  cases opcode with
  | nop => exact .ok ⟨.none, h⟩
  | loadNull => exact .ok ⟨.none, h.push .null⟩
  | loadInt32 n => exact .ok ⟨.none, h.push (.int32 n)⟩
  | loadInt64 n => exact .ok ⟨.none, h.push (.int64 n)⟩
  | loadFloat64 x => exact .ok ⟨.none, h.push (.float64 x)⟩
  | loadBool b => exact .ok ⟨.none, h.push (.bool b)⟩
  | loadChar c => exact .ok ⟨.none, h.push (.char c)⟩
  | loadString s => exact .ok ⟨.none, h.push (.string s)⟩
  | loadLocal slot => exact h.quiet_push (h.getSlot .local slot)
  | loadArg slot => exact h.quiet_push (h.getSlot .argument slot)
  | storeLocal slot =>
    refine h.pop.bind ?_
    rintro ⟨value, rest⟩ ⟨value', rest'⟩ ⟨alike, same⟩
    exact quiet (same.setSlot .local slot alike)
  | storeArg slot =>
    refine h.pop.bind ?_
    rintro ⟨value, rest⟩ ⟨value', rest'⟩ ⟨alike, same⟩
    exact quiet (same.setSlot .argument slot alike)
  | loadField field => exact quiet (h.unary fun _ _ alike => memories.loadField alike field)
  | storeField field =>
    refine h.pop.bind ?_
    rintro ⟨value, above⟩ ⟨value', above'⟩ ⟨content, same⟩
    refine same.pop.bind ?_
    rintro ⟨target, rest⟩ ⟨target', rest'⟩ ⟨alike, same⟩
    refine ((memories.fieldOwner alike field).mono (fun _ _ => fails) fun _ _ => id).bind ?_
    intro owner owner' paired
    exact .ok ⟨.setField _ paired content, same⟩
  | loadStaticField field =>
    exact h.quiet_push ((memories.loadStatic classes field).mono (fun _ _ => fails) fun _ _ => id)
  | storeStaticField field =>
    refine h.pop.bind ?_
    rintro ⟨value, rest⟩ ⟨value', rest'⟩ ⟨content, same⟩
    simp only [classes.field_eq]
    cases declared : program.field field with
    | error failure => exact .error (matching.plain _ (Program.plain_of_field declared))
    | ok _ => exact .ok ⟨.setStatic field content, same⟩
  | dup =>
    refine h.pop.bind ?_
    rintro ⟨value, rest⟩ ⟨value', rest'⟩ ⟨alike, same⟩
    exact .ok ⟨.none, (same.push alike).push alike⟩
  | pop => exact h.pop.bind fun _ _ popped => .ok ⟨.none, popped.2⟩
  | add => exact quiet (h.binary fun _ _ _ _ => Value.Alike.add)
  | sub => exact quiet (h.binary fun _ _ _ _ => Value.Alike.arithmetic _)
  | mul => exact quiet (h.binary fun _ _ _ _ => Value.Alike.arithmetic _)
  | div => exact quiet (h.binary fun _ _ _ _ => Value.Alike.div)
  | rem => exact quiet (h.binary fun _ _ _ _ => Value.Alike.rem)
  | compareEqual =>
    refine quiet (h.binary fun a a' b b' first second => ?_)
    simp only [first.isEqual_eq memories.oneToOne second]
    exact .ok (.bool _)
  | compareLess => exact quiet (h.binary fun _ _ _ _ => Value.Alike.isLess)
  | compareGreater => exact quiet (h.binary fun _ _ _ _ => Value.Alike.isGreater)
  | neg => exact quiet (h.unary fun _ _ => Value.Alike.neg)
  | not =>
    refine quiet (h.unary fun a a' alike => ?_)
    simp only [alike.isTruthy_eq]
    exact .ok (.bool _)
  | newObject className =>
    change Agree _ _ (program.findClass className >>= _) (program'.findClass className >>= _)
    rw [classes className]
    cases declared : program.findClass className with
    | error failure => exact .error (matching.plain _ (Program.plain_of_findClass declared))
    | ok found =>
      refine .ok ⟨.create className fun _ => found.initialFields_alike, ?_⟩
      exact (h.mono fun _ _ => Or.inl).push (.object className (Or.inr ⟨rfl, rfl⟩))
  | box type =>
    refine quiet (h.unary fun a a' alike => ?_)
    unfold boxTop
    rw [alike.isAssignable_eq, alike.describe_eq]
    split
    · exact .ok alike.box
    · exact .error ⟨rfl, rfl⟩
  | unbox type =>
    refine quiet (h.unary fun a a' alike => ?_)
    exact (alike.unbox type).mapError fun failure failure' same => ⟨same ▸ rfl, rfl⟩
  | jump target => cases straight
  | jumpIfTrue target => cases straight
  | jumpIfFalse target => cases straight
  | _ => exact .error (matching.plain _ rfl)

/-- A branch is taken on both sides or on neither. -/
theorem branch (h : Frame.Matches matching pairing frame frame') (wanted : Bool) (target target' : Nat) :
    Agree matching.failure
      (fun done done' => ∃ rest rest', Frame.Matches matching pairing rest rest' ∧ (done = rest ∧ done' = rest' ∨
        done = { rest with pointer := target } ∧ done' = { rest' with pointer := target' }))
      (frame.branch wanted target) (frame'.branch wanted target') := by
  refine h.pop.bind ?_
  rintro ⟨condition, rest⟩ ⟨condition', rest'⟩ ⟨alike, same⟩
  simp only [alike.isTruthy_eq]
  split
  · exact .ok ⟨rest, rest', same, Or.inr ⟨rfl, rfl⟩⟩
  · exact .ok ⟨rest, rest', same, Or.inl ⟨rfl, rfl⟩⟩

/-- Matching states raise the same exception, with corresponding traces. -/
theorem raised {memory memory' : Memory} (memories : Memory.Alike pairing memory memory')
    (h : Frame.Matches matching pairing frame frame') {callers callers' : List Frame}
    (waiting : List.Forall₂ (Frame.Matches matching pairing) callers callers') :
    matching.failure (State.raised frame callers memory.heap) (State.raised frame' callers' memory'.heap) := by
  have places := (List.Forall₂.cons h waiting).imp fun _ _ same => same.place
  unfold State.raised
  have popped := h.pop
  generalize frame.pop = result at popped
  generalize frame'.pop = result' at popped
  cases popped with
  | error failing => exact failing
  | ok values =>
    simp only [memories.exceptionText_eq values.1]
    exact matching.thrown _ places

end Frame.Matches

/-- What callers can tell of a method without executing it. -/
structure Method.SameInterface (method method' : Method) : Prop where
  name : method'.qualifiedName = method.qualifiedName
  argCount : method'.argCount = method.argCount
  locals : method'.locals = method.locals
  hasBody : method'.body.isSome = method.body.isSome

theorem Method.SameInterface.refl (method : Method) : Method.SameInterface method method := ⟨rfl, rfl, rfl, rfl⟩

/-- Two methods with one interface are entered alike with alike arguments. -/
theorem Method.SameInterface.enterCall {method method' : Method} (same : Method.SameInterface method method')
    {pairing : Nat → Nat → Prop} {args args' : List Value} (alike : List.Forall₂ (Value.Alike pairing) args args')
    (limits : Limits) {frames frames' : List Frame} (depth : frames'.length = frames.length) :
    Agree RuntimeError.Plain
      (fun entered entered' => entered = Frame.enter method args :: frames ∧
        entered' = Frame.enter method' args' :: frames')
      (enterCall limits method args frames) (enterCall limits method' args' frames') := by
  have bodyless : method'.body.isNone = method.body.isNone := by
    rw [← Option.not_isSome, ← Option.not_isSome, same.hasBody]
  unfold Faultline.enterCall
  rw [bodyless, same.argCount, same.name, alike.length_eq, depth]
  split
  · exact .error ⟨rfl, rfl⟩
  · split
    · exact .error ⟨rfl, rfl⟩
    · split
      · exact .error ⟨rfl, rfl⟩
      · exact .ok ⟨rfl, rfl⟩

theorem Method.SameInterface.enter {method method' : Method} (same : Method.SameInterface method method')
    {pairing : Nat → Nat → Prop} {args args' : List Value} (alike : List.Forall₂ (Value.Alike pairing) args args') :
    Frame.Alike pairing (Frame.enter method args) (Frame.enter method' args') := by
  refine ⟨alike, ?_, .nil⟩
  simp only [Frame.enter, same.locals]
  exact List.forall₂_same.2 fun value member => by
    obtain ⟨type, _, rfl⟩ := List.mem_map.1 member
    exact type.default_alike

def Program.Declares (program : Program) (method : Method) : Prop :=
  ∃ module ∈ program.modules, method ∈ module.methods

/-- Programs with the same fields whose methods are found under the same names and correspond. -/
structure Program.Matches (methods : Method → Method → Prop) (program program' : Program) : Prop where
  classes : program.SameClasses program'
  method : ∀ name, Agree RuntimeError.Plain methods (program.method name) (program'.method name)

namespace Frame.Matches

variable {matching : Matching} {pairing : Nat → Nat → Prop} {frame frame' : Frame}

/-- A call enters corresponding methods with the same arguments. -/
theorem callFrames {methods : Method → Method → Prop} {program program' : Program}
    (programs : Program.Matches methods program program')
    (interface : ∀ method method', methods method method' → Method.SameInterface method method')
    (h : Frame.Matches matching pairing frame frame') {callers callers' : List Frame}
    (depth : callers'.length = callers.length) (limits : Limits) (callee : Member) :
    Agree matching.failure
      (fun frames frames' => ∃ method method' args args' caller caller', methods method method' ∧
        List.Forall₂ (Value.Alike pairing) args args' ∧ Frame.Matches matching pairing caller caller' ∧
        frames = Frame.enter method args :: caller :: callers ∧
        frames' = Frame.enter method' args' :: caller' :: callers')
      (State.callFrames program limits callee frame callers)
      (State.callFrames program' limits callee frame' callers') := by
  refine ((programs.method callee).mono (fun _ _ => fails) fun _ _ => id).bind ?_
  intro method method' related
  have same := interface method method' related
  simp only [same.argCount]
  refine (h.popMany method.argCount).bind ?_
  rintro ⟨args, caller⟩ ⟨args', caller'⟩ ⟨alike, waiting⟩
  have depths : (caller' :: callers').length = (caller :: callers).length := congrArg (· + 1) depth
  refine (same.enterCall alike limits depths).mono (fun _ _ => fails) ?_
  rintro frames frames' ⟨rfl, rfl⟩
  exact ⟨method, method', args, args', caller, caller', related, alike, waiting, rfl, rfl⟩

end Frame.Matches

namespace Value.Alike

variable {pairing : Nat → Nat → Prop} {a a' : Value}

theorem toDocument (h : Alike pairing a a') : Agree RuntimeError.Plain Eq a.toDocument a'.toDocument := by
  have described := h.describe_eq
  cases h with
  | string s => exact .ok rfl
  | _ => simp only [Value.toDocument, described]; exact .error ⟨rfl, rfl⟩

/-- A coordinate is an integer, which likeness leaves as it is. -/
theorem toCoordinate (h : Alike pairing a a') (operation : String) :
    Agree RuntimeError.Plain Eq (a.toCoordinate operation) (a'.toCoordinate operation) := by
  have described := h.describe_eq
  cases h with
  | int32 n =>
    simp only [Value.toCoordinate]
    split
    · exact .error ⟨rfl, rfl⟩
    · exact .ok rfl
  | _ => simp only [Value.toCoordinate, described]; exact .error ⟨rfl, rfl⟩

/-- A site id is an integer, which likeness leaves as it is. -/
theorem toSiteId (h : Alike pairing a a') : Agree RuntimeError.Plain Eq a.toSiteId a'.toSiteId := by
  have described := h.describe_eq
  cases h with
  | int64 n =>
    simp only [Value.toSiteId]
    split
    · exact .error ⟨rfl, rfl⟩
    · exact .ok rfl
  | _ => simp only [Value.toSiteId, described]; exact .error ⟨rfl, rfl⟩

end Value.Alike

/-- The value that a hook call shows, taken out of its box. -/
def shownValue (type : ValueType) (value : Value) : Except RuntimeError Value :=
  if type.isPrimitive then (value.unbox type).mapError .value else .ok value

/-- What a hook call makes of its seven operands. -/
def hookOperands (type : ValueType) (value document startLine endLine startColumn endColumn site : Value) :
    Except RuntimeError (HookPoint × Value) := do
  let document ← document.toDocument
  let startLine ← startLine.toCoordinate "hook start line"
  let endLine ← endLine.toCoordinate "hook end line"
  let startColumn ← startColumn.toCoordinate "hook start column"
  let endColumn ← endColumn.toCoordinate "hook end column"
  let site ← site.toSiteId
  let value ← shownValue type value
  return (⟨site, type, ⟨document, startLine, endLine, startColumn, endColumn⟩⟩, value)

/-- The seven operands of a hook call, with the site on top and the value shown at the bottom. -/
theorem Frame.popHookCall_eq (frame : Frame) (type : ValueType) :
    frame.popHookCall type =
      match frame.stack with
      | site :: endColumn :: startColumn :: endLine :: startLine :: document :: value :: rest =>
        (hookOperands type value document startLine endLine startColumn endColumn site).map
          fun seen => (seen, { frame with stack := rest })
      | _ => .error frame.underflow := by
  unfold Frame.popHookCall Frame.popMany
  match frame.stack with
  | site :: endColumn :: startColumn :: endLine :: startLine :: document :: value :: rest =>
    rw [if_neg (by simp)]
    simp only [List.take, List.drop, List.reverse_cons, List.reverse_nil, List.nil_append, List.cons_append,
      hookOperands, shownValue]
    simp only [bind, Except.bind, pure, Except.pure]
    cases document.toDocument <;> try rfl
    cases startLine.toCoordinate "hook start line" <;> try rfl
    cases endLine.toCoordinate "hook end line" <;> try rfl
    cases startColumn.toCoordinate "hook start column" <;> try rfl
    cases endColumn.toCoordinate "hook end column" <;> try rfl
    cases site.toSiteId <;> try rfl
    cases type.isPrimitive <;> try rfl
    cases value.unbox type <;> rfl
  | [] | [_] | [_, _] | [_, _, _] | [_, _, _, _] | [_, _, _, _, _] | [_, _, _, _, _, _] => rfl

/-- Alike operands of a hook call show the same site and location, and alike values. -/
theorem hookOperands_agree {pairing : Nat → Nat → Prop} (type : ValueType)
    {value value' document document' startLine startLine' endLine endLine' : Value}
    {startColumn startColumn' endColumn endColumn' site site' : Value}
    (shown : Value.Alike pairing value value') (inDocument : Value.Alike pairing document document')
    (fromLine : Value.Alike pairing startLine startLine') (toLine : Value.Alike pairing endLine endLine')
    (fromColumn : Value.Alike pairing startColumn startColumn')
    (toColumn : Value.Alike pairing endColumn endColumn') (numbered : Value.Alike pairing site site') :
    Agree RuntimeError.Plain (fun seen seen' => seen'.1 = seen.1 ∧ Value.Alike pairing seen.2 seen'.2)
      (hookOperands type value document startLine endLine startColumn endColumn site)
      (hookOperands type value' document' startLine' endLine' startColumn' endColumn' site') := by
  have answer : Agree RuntimeError.Plain (Value.Alike pairing) (shownValue type value) (shownValue type value') := by
    unfold shownValue
    split
    · exact (shown.unbox type).mapError fun failure failure' same => ⟨same ▸ rfl, rfl⟩
    · exact .ok shown
  refine inDocument.toDocument.bind ?_
  rintro document _ rfl
  refine (fromLine.toCoordinate _).bind ?_
  rintro startLine _ rfl
  refine (toLine.toCoordinate _).bind ?_
  rintro endLine _ rfl
  refine (fromColumn.toCoordinate _).bind ?_
  rintro startColumn _ rfl
  refine (toColumn.toCoordinate _).bind ?_
  rintro endColumn _ rfl
  refine numbered.toSiteId.bind ?_
  rintro site _ rfl
  refine answer.bind ?_
  intro seen seen' alike
  exact .ok ⟨rfl, alike⟩

/-- What both sides take off the stack for a hook call, apart from the calls they are left with. -/
def SameHookCall (matching : Matching) (pairing : Nat → Nat → Prop)
    (popped popped' : (HookPoint × Value) × Frame) : Prop :=
  popped'.1.1 = popped.1.1 ∧ Value.Alike pairing popped.1.2 popped'.1.2 ∧
    Frame.Matches matching pairing popped.2 popped'.2

/-- Matching frames pop the same hook call, with alike values. -/
theorem Frame.Matches.popHookCall {matching : Matching} {pairing : Nat → Nat → Prop} {frame frame' : Frame}
    (h : Frame.Matches matching pairing frame frame') (type : ValueType) :
    Agree matching.failure (SameHookCall matching pairing) (frame.popHookCall type) (frame'.popHookCall type) := by
  have failing := h.underflow
  have stack := h.stack
  rw [Frame.popHookCall_eq, Frame.popHookCall_eq]
  generalize frame.stack = operands at stack
  generalize frame'.stack = operands' at stack
  match operands, operands', stack with
  | _, _, .cons site
      (.cons endColumn (.cons startColumn (.cons endLine (.cons startLine (.cons document (.cons value rest)))))) =>
    refine ((hookOperands_agree type value document startLine endLine startColumn endColumn site).mono
      (fun _ _ => fails) fun _ _ => id).map ?_
    rintro seen seen' ⟨point, alike⟩
    exact ⟨point, alike, ⟨h.args, h.locals, rest⟩, h.place⟩
  | _, _, .nil | _, _, .cons _ .nil | _, _, .cons _ (.cons _ .nil) | _, _, .cons _ (.cons _ (.cons _ .nil))
  | _, _, .cons _ (.cons _ (.cons _ (.cons _ .nil))) | _, _, .cons _ (.cons _ (.cons _ (.cons _ (.cons _ .nil))))
  | _, _, .cons _ (.cons _ (.cons _ (.cons _ (.cons _ (.cons _ .nil))))) => exact .error failing

end Faultline
