import Faultline.Proofs.Code.Canonical

namespace Faultline

/-- Nothing is written that begins with the tag. -/
def Unwritten {α : Type} (encode : α → Bytes) (tag : UInt8) : Prop := ∀ x, (encode x).head? ≠ some tag

/-- A failure that names a tag and where it stands. The tag is none of those that are written there. -/
inductive DecodeError.Unknown (tag : UInt8) (place : Nat) : DecodeError → Prop
  | opcode (unwritten : Unwritten Opcode.encode tag) : Unknown tag place (.unknownOpcode tag place)
  | type (unwritten : Unwritten ValueType.encode tag) : Unknown tag place (.unknownType tag place)
  | debugInfo (unwritten : Unwritten DebugInfo.encode tag) : Unknown tag place (.unknownDebugInfo tag place)

namespace Reader

/-- A property of readers that those that look at the bytes have, and that is kept where readers are put
together. For each tag there is a reader that has it, or the tag is unknown. -/
structure Compositional (P : ∀ {α : Type}, Reader α → Prop) : Prop where
  pure {α : Type} (x : α) : P (Pure.pure x : Reader α)
  bind {α β : Type} {item : Reader α} {next : α → Reader β} : P item → (∀ x, P (next x)) → P (item >>= next)
  bytes (n : Nat) : P (bytes n)
  count : P count
  invalidText (fault : Utf8Error) : P (fail (.invalidText fault) : Reader String)
  invalidChar (code : Nat) : P (fail (.invalidChar code) : Reader Char)
  tagged {α : Type} {branch : Nat → UInt8 → Reader α} :
    (∀ start tag, P (branch start tag) ∨ ∃ failure : DecodeError, failure.Unknown tag start ∧
      branch start tag = fail failure) → P (offset >>= fun start => byte >>= branch start)

namespace Compositional

variable {P : ∀ {α : Type}, Reader α → Prop} (rule : Compositional @P) {α β : Type} {item : Reader α}

include rule

theorem result {f : α → β} (has : P item) : P (item >>= fun x => Pure.pure (f x)) :=
  rule.bind has fun _ => rule.pure _

theorem map {f : α → β} (has : P item) : P (f <$> item) := by
  rw [map_eq_pure_bind]
  exact rule.result has

theorem replicate (has : P item) (n : Nat) : P (replicate item n) := by
  induction n with
  | zero => exact rule.pure []
  | succ n ih => exact rule.bind has fun head => rule.result ih

theorem nat (width : Nat) : P (nat width) := rule.map (rule.bytes width)

theorem byte : P byte := rule.map (rule.nat 1)

theorem length : P length := rule.nat 4

theorem bool : P bool := rule.map rule.byte

theorem text : P text := by
  refine rule.bind rule.length fun size => rule.bind (rule.bytes size) fun raw => ?_
  cases decodeUtf8 raw with
  | ok text => exact rule.pure text
  | error fault => exact rule.invalidText fault

theorem slot : P slot := rule.map (rule.nat 2)

theorem char : P char := by
  refine rule.bind (rule.nat 4) fun code => ?_
  split
  · exact rule.pure _
  · exact rule.invalidChar code

theorem option (has : P item) : P (option item) := by
  refine rule.bind rule.bool fun present => ?_
  cases present
  · exact rule.pure none
  · exact rule.result has

theorem list (has : P item) : P (list item) := rule.bind rule.length fun n => rule.replicate has n

theorem counted (has : P item) : P (counted item) := rule.bind rule.count fun n => rule.replicate has n

theorem valueType : P valueType := by
  refine rule.tagged fun start tag => ?_
  split
  case h_7 => exact Or.inl (rule.result rule.text)
  case h_8 =>
    refine Or.inr ⟨_, .type fun type same => ?_, rfl⟩
    cases type <;> cases same <;> contradiction
  all_goals exact Or.inl (rule.pure _)

theorem member : P member := rule.bind rule.text fun _ => rule.result rule.text

/-- The reader of an instruction has every property that is closed under sequencing and holds of its operands.
-/
theorem opcode : P opcode := by
  refine rule.tagged fun start tag => ?_
  -- The case `h_k` is that of the tag `k - 1`.
  split
  case h_3 => exact Or.inl (rule.result (rule.nat 4))
  case h_4 | h_5 => exact Or.inl (rule.result (rule.nat 8))
  case h_6 => exact Or.inl (rule.result rule.bool)
  case h_7 => exact Or.inl (rule.result rule.char)
  case h_8 | h_49 => exact Or.inl (rule.result rule.text)
  case h_9 | h_10 | h_11 | h_12 | h_13 | h_14 => exact Or.inl (rule.result rule.slot)
  case h_15 | h_16 | h_17 | h_18 | h_19 | h_20 | h_29 | h_30 | h_48 => exact Or.inl (rule.result rule.member)
  case h_21 | h_23 | h_24 | h_25 | h_26 | h_27 | h_28 | h_50 | h_51 | h_52 =>
    exact Or.inl (rule.result rule.valueType)
  case h_43 | h_44 | h_45 => exact Or.inl (rule.result rule.length)
  case h_53 =>
    refine Or.inr ⟨_, .opcode fun operation same => ?_, rfl⟩
    cases operation <;> cases same <;> contradiction
  all_goals exact Or.inl (rule.pure _)

theorem debugInfo : P debugInfo := by
  refine rule.tagged fun start tag => ?_
  split
  case h_4 =>
    refine Or.inr ⟨_, .debugInfo fun written same => ?_, rfl⟩
    cases written <;> cases same <;> contradiction
  all_goals exact Or.inl (rule.pure _)

theorem entry : P entry := rule.bind rule.text fun _ => rule.result rule.text

theorem instruction : P instruction := rule.result rule.opcode

theorem field : P field := rule.bind rule.text fun _ => rule.bind rule.valueType fun _ => rule.result rule.bool

theorem classDecl : P classDecl := by
  rw [classDecl_eq]
  exact rule.bind rule.text fun _ => rule.result (rule.counted rule.field)

theorem code : P code := by
  rw [code_eq]
  exact rule.result (rule.counted rule.instruction)

theorem method : P method := by
  rw [method_eq]
  exact rule.bind rule.text fun _ => rule.bind rule.text fun _ => rule.bind rule.bool fun _ =>
    rule.bind (rule.list rule.valueType) fun _ => rule.bind (rule.list rule.valueType) fun _ =>
    rule.bind (rule.option rule.valueType) fun _ => rule.bind (rule.list rule.text) fun _ =>
    rule.result (rule.option rule.code)

/-- The property is that of the reader of modules. -/
theorem module : P module := by
  rw [module_eq]
  exact rule.bind rule.text fun _ => rule.bind rule.bool fun _ => rule.bind rule.debugInfo fun _ =>
    rule.bind (rule.list rule.entry) fun _ => rule.bind (rule.counted rule.classDecl) fun _ =>
    rule.result (rule.counted rule.method)

end Compositional

end Reader

end Faultline
