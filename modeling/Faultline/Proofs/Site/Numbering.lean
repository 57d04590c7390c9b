import Faultline.Proofs.Site.Relocation

namespace Faultline

namespace Method

/-- The declared type of the value that instruction `index` loads, if it is one to be observed. -/
def loadType? (method : Method) (fields : FieldTypes) (index : Nat) : Option ValueType :=
  match method.code[index]? with
  | none => none
  | some instruction =>
    match method.siteType? fields index instruction.opcode with
    | .ok type => type
    | .error _ => none

/-- The instructions with an observed value, in ascending order. -/
def loads (method : Method) (fields : FieldTypes) : List Nat :=
  (List.range method.code.size).filter fun index => (method.loadType? fields index).isSome

end Method

/-- The observed loads of a module in the order of its text: by method, then by instruction. -/
def Module.loads (module : Module) (fields : FieldTypes) : List (Member × Nat) :=
  module.methods.flatMap fun method => (method.loads fields).map fun index => (method.member, index)

/-- What the load at an instruction of a method is observed as, if it is one that is observed. -/
abbrev Sites := Method → Nat → Option Site

/-- The sites that loads become when they are numbered in the order listed, from `first` on. -/
def Sites.numbered (fields : FieldTypes) (loads : List (Member × Nat)) (first : UInt32) : Sites :=
  fun method index => do
  let position ← loads.idxOf? (method.member, index)
  let type ← method.loadType? fields index
  let location ← locationAt method.code index
  return ⟨first + .ofNat position, type, location, method.qualifiedName⟩

namespace Site

/-- Whether lines and columns can be written as literals. -/
structure Fits (site : Site) : Prop where
  startLine : site.location.startLine ≤ 0x7FFFFFFF
  endLine : site.location.endLine ≤ 0x7FFFFFFF
  startColumn : site.location.startColumn ≤ 0x7FFFFFFF
  endColumn : site.location.endColumn ≤ 0x7FFFFFFF

/-- The operands of a hook call and the call itself. -/
def hookCall (site : Site) : List Opcode :=
  [.loadString site.location.document, .loadInt32 site.location.startLine.toInt32,
    .loadInt32 site.location.endLine.toInt32, .loadInt32 site.location.startColumn.toInt32,
    .loadInt32 site.location.endColumn.toInt32, .loadInt64 site.id.toUInt64.toInt64, .callHook site.type]

/-- The opcodes behind a site whose location fits. -/
def hookCode (site : Site) : List Opcode :=
  if site.type.isPrimitive then .box site.type :: site.hookCall ++ [.unbox site.type] else site.hookCall

/-- Writing fails at a coordinate beyond the range and goes on behind any other. -/
theorem literal_bind {site : Site} {α : Type} {value : UInt32} {rest : Int32 → Except InstrumentError α}
    {result : Except InstrumentError α} (run : (site.literal value >>= rest) = result) :
    (0x7FFFFFFF < value ∧ result = .error (.locationOutOfRange site.id value)) ∨
    (value ≤ 0x7FFFFFFF ∧ rest value.toInt32 = result) := by
  unfold literal at run
  split at run
  · rename_i small
    exact Or.inr ⟨small, run⟩
  · rename_i large
    exact Or.inl ⟨UInt32.not_le.1 large, run.symm⟩

/-- A site whose call can be written has coordinates that fit, and the call is the expected one. -/
theorem hookOpcodes_eq {site : Site} {opcodes : List Opcode} (written : site.hookOpcodes = .ok opcodes) :
    site.Fits ∧ opcodes = site.hookCode := by
  unfold hookOpcodes at written
  obtain ⟨-, ⟨⟩⟩ | ⟨startLine, written⟩ := literal_bind written
  obtain ⟨-, ⟨⟩⟩ | ⟨endLine, written⟩ := literal_bind written
  obtain ⟨-, ⟨⟩⟩ | ⟨startColumn, written⟩ := literal_bind written
  obtain ⟨-, ⟨⟩⟩ | ⟨endColumn, written⟩ := literal_bind written
  cases written
  exact ⟨⟨startLine, endLine, startColumn, endColumn⟩, rfl⟩

theorem length_hookCode (site : Site) : site.hookCode.length = site.type.hookLength := by
  unfold hookCode ValueType.hookLength
  split <;> rfl

/-- The opcodes behind a site, one by one. -/
theorem forall_mem_hookCode {site : Site} {P : Opcode → Prop} (box : P (.box site.type))
    (unbox : P (.unbox site.type)) (document : P (.loadString site.location.document))
    (coordinate : ∀ value, P (.loadInt32 value)) (number : ∀ value, P (.loadInt64 value))
    (call : P (.callHook site.type)) : ∀ opcode ∈ site.hookCode, P opcode := by
  unfold hookCode hookCall
  split <;> simp [box, unbox, document, coordinate, number, call]

theorem target?_hookCode {site : Site} {opcode : Opcode} (member : opcode ∈ site.hookCode) : opcode.target? = none :=
  forall_mem_hookCode (P := (·.target? = none)) rfl rfl rfl (fun _ => rfl) (fun _ => rfl) rfl opcode member

/-- A sequence that can be written is the hook code, hidden in the document of its site. -/
theorem hookSequence_eq {site : Site} {sequence : Array Instruction} (written : site.hookSequence = .ok sequence) :
    site.Fits ∧ sequence = (site.hookCode.map fun opcode =>
      Instruction.hidden opcode site.location.document).toArray := by
  unfold hookSequence at written
  cases opcodes : site.hookOpcodes with
  | error failure => rw [opcodes] at written; cases written
  | ok listed =>
    rw [opcodes] at written
    obtain ⟨fits, rfl⟩ := hookOpcodes_eq opcodes
    cases written
    exact ⟨fits, rfl⟩

end Site

theorem Instruction.isHidden_hidden (opcode : Opcode) (document : String) :
    (Instruction.hidden opcode document).isHidden := by
  simp [hidden, isHidden, Location.hidden, Location.isHidden]

/-- A plan that follows the classification of its instruction and has the given number. -/
structure PlannedSite.Sound (plan : PlannedSite) (method : Method) (fields : FieldTypes)
    (number : UInt32) : Prop where
  number : plan.site.id = number
  type : method.loadType? fields plan.index = some plan.site.type
  location : locationAt method.code plan.index = some plan.site.location
  name : plan.site.method = method.qualifiedName
  fits : plan.site.Fits
  sequence : plan.sequence =
    (plan.site.hookCode.map fun opcode => Instruction.hidden opcode plan.site.location.document).toArray

theorem PlannedSite.Sound.size_sequence {plan : PlannedSite} {method : Method} {fields : FieldTypes} {number : UInt32}
    (sound : plan.Sound method fields number) : plan.sequence.size = plan.site.type.hookLength := by
  rw [sound.sequence, List.size_toArray, List.length_map, Site.length_hookCode]

namespace Method

variable {method : Method} {fields : FieldTypes}

theorem mem_loads {index : Nat} : index ∈ method.loads fields ↔ (method.loadType? fields index).isSome := by
  simp only [loads, List.mem_filter, List.mem_range, and_iff_right_iff_imp]
  intro load
  apply Nat.lt_of_not_le
  intro past
  simp [loadType?, Array.getElem?_eq_none past] at load

theorem loadType?_eq {index : Nat} {instruction : Instruction} (here : method.code[index]? = some instruction)
    {type : Option ValueType} (kind : method.siteType? fields index instruction.opcode = .ok type) :
    method.loadType? fields index = type := by
  simp only [loadType?, here, kind]

/-- A plan either passes an instruction over or begins with its site, which has the next number. -/
theorem planSites_ok {instruction : Instruction} {index : Nat} {rest : List (Instruction × Nat)}
    {next last : UInt32} {planned : List PlannedSite}
    (found : method.planSites fields ((instruction, index) :: rest) next = (.ok planned, last)) :
    (method.siteType? fields index instruction.opcode = .ok none ∧
      method.planSites fields rest next = (.ok planned, last)) ∨
      ∃ type location sequence later, method.siteType? fields index instruction.opcode = .ok (some type) ∧
        locationAt method.code index = some location ∧
        (⟨next, type, location, method.qualifiedName⟩ : Site).hookSequence = .ok sequence ∧
        method.planSites fields rest (next + 1) = (.ok later, last) ∧
        planned = ⟨index, ⟨next, type, location, method.qualifiedName⟩, sequence⟩ :: later := by
  unfold planSites at found
  split at found
  · cases found
  · rename_i kind
    exact Or.inl ⟨kind, found⟩
  · rename_i type kind
    split at found
    · cases found
    · rename_i location located
      dsimp only at found
      split at found
      · cases found
      · rename_i sequence written
        generalize method.planSites fields rest (next + 1) = result at found ⊢
        obtain ⟨later?, finish⟩ := result
        cases later? with
        | error failure => cases found
        | ok later =>
          cases found
          exact Or.inr ⟨type, location, sequence, later, kind, located, written, rfl, rfl⟩

/-- Planning finds the loads among the given instructions and numbers them through. -/
theorem planSites_sound {entries : List (Instruction × Nat)}
    (placed : ∀ entry ∈ entries, method.code[entry.2]? = some entry.1) {next last : UInt32}
    {planned : List PlannedSite} (found : method.planSites fields entries next = (.ok planned, last)) :
    planned.map (·.index) = (entries.map (·.2)).filter (fun index => (method.loadType? fields index).isSome) ∧
      (∀ (position : Nat) (plan : PlannedSite), planned[position]? = some plan →
        plan.Sound method fields (next + .ofNat position)) ∧
      last = next + .ofNat planned.length := by
  induction entries generalizing next planned with
  | nil =>
    cases found
    exact ⟨rfl, fun position plan listed => by simp at listed, by simp⟩
  | cons entry rest ih =>
    obtain ⟨instruction, index⟩ := entry
    have here : method.code[index]? = some instruction := placed _ (List.mem_cons_self ..)
    have placedRest : ∀ entry ∈ rest, method.code[entry.2]? = some entry.1 :=
      fun entry member => placed entry (List.mem_cons_of_mem _ member)
    rcases planSites_ok found
      with ⟨kind, later⟩ | ⟨type, location, sequence, laterPlanned, kind, located, written, later, rfl⟩
    · have type? : method.loadType? fields index = none := loadType?_eq here kind
      obtain ⟨indices, sound, lastEq⟩ := ih placedRest later
      exact ⟨by simp [type?, indices], sound, lastEq⟩
    · have type? : method.loadType? fields index = some type := loadType?_eq here kind
      obtain ⟨indices, sound, lastEq⟩ := ih placedRest later
      obtain ⟨fits, sequenceEq⟩ := Site.hookSequence_eq written
      refine ⟨by simp [type?, indices], ?_, ?_⟩
      · intro position plan listed
        cases position with
        | zero =>
          cases listed
          exact ⟨by simp, type?, located, rfl, fits, sequenceEq⟩
        | succ position =>
          have inner := sound position plan listed
          refine { inner with number := inner.number.trans ?_ }
          rw [UInt32.ofNat_add, UInt32.add_assoc, UInt32.add_comm 1]
          rfl
      · rw [lastEq, List.length_cons, UInt32.ofNat_add, UInt32.add_assoc, UInt32.add_comm 1]
        rfl

end Method

end Faultline
