import Faultline.Code.OpcodeText
import Faultline.Proofs.Table
import Faultline.Proofs.Code.Reading

namespace Faultline

def ValueType.Fits : ValueType → Prop
  | object className => TextFits className
  | _ => True

def Member.Fits (member : Member) : Prop := TextFits member.owner ∧ TextFits member.name

def Operand.Fits : Operand → Prop
  | string s => TextFits s
  | target n => n < 2 ^ 32
  | type t => t.Fits
  | field m | method m => m.Fits
  | _ => True

def Opcode.Fits (opcode : Opcode) : Prop := opcode.parts.2.Fits

@[mk_iff]
structure Field.Fits (field : Field) : Prop where
  name : TextFits field.name
  type : field.type.Fits

@[mk_iff]
structure Class.Fits (c : Class) : Prop where
  name : TextFits c.name
  fields : ListFits Field.Fits c.fields

@[mk_iff]
structure Method.Fits (m : Method) : Prop where
  owner : TextFits m.owner
  name : TextFits m.name
  params : ListFits ValueType.Fits m.params
  locals : ListFits ValueType.Fits m.locals
  returns : ∀ type ∈ m.returns, type.Fits
  attributes : ListFits TextFits m.attributes
  body : ∀ code ∈ m.body, ListFits (fun instruction => instruction.opcode.Fits) code.toList

/-- No text, list or jump of the module is too long for the format. -/
@[mk_iff]
structure Module.Fits (m : Module) : Prop where
  name : TextFits m.name
  metadata : ListFits (fun entry => TextFits entry.1 ∧ TextFits entry.2) m.metadata.entries
  classes : ListFits Class.Fits m.classes
  methods : ListFits Method.Fits m.methods

section Decidable

instance : DecidablePred TextFits := fun s => inferInstanceAs (Decidable ((textBytes s).length < 2 ^ 32))

instance {α : Type} {Fits : α → Prop} [DecidablePred Fits] : DecidablePred (ListFits Fits) := fun items =>
  inferInstanceAs (Decidable (items.length < 2 ^ 32 ∧ ∀ item ∈ items, Fits item))

instance : DecidablePred ValueType.Fits
  | .object className => inferInstanceAs (Decidable (TextFits className))
  | .int32 | .int64 | .float64 | .bool | .char | .string => isTrue trivial

instance : DecidablePred Member.Fits := fun member =>
  inferInstanceAs (Decidable (TextFits member.owner ∧ TextFits member.name))

instance : DecidablePred Operand.Fits
  | .string s => inferInstanceAs (Decidable (TextFits s))
  | .target n => inferInstanceAs (Decidable (n < 2 ^ 32))
  | .type t => inferInstanceAs (Decidable t.Fits)
  | .field m | .method m => inferInstanceAs (Decidable m.Fits)
  | .none | .int32 _ | .int64 _ | .float64 _ | .bool _ | .char _ | .slot _ => isTrue trivial

instance : DecidablePred Opcode.Fits := fun opcode => inferInstanceAs (Decidable opcode.parts.2.Fits)

instance : DecidablePred Field.Fits := fun field => decidable_of_iff' _ (Field.fits_iff field)

instance : DecidablePred Class.Fits := fun c => decidable_of_iff' _ (Class.fits_iff c)

instance : DecidablePred Method.Fits := fun m => decidable_of_iff' _ (Method.fits_iff m)

instance : DecidablePred Module.Fits := fun m => decidable_of_iff' _ (Module.fits_iff m)

end Decidable

/-! A module without what is left to the symbol file. -/

def Instruction.bare (instruction : Instruction) : Instruction := { instruction with location := none }

def Method.bare (m : Method) : Method := { m with body := m.body.map (·.map Instruction.bare) }

/-- The module with no locations and no sites. -/
def Module.bare (m : Module) : Module := { m with methods := m.methods.map Method.bare, sites := [] }

/-- Whether a method fits the format does not depend on its locations, which are not written. -/
theorem Method.fits_bare {method : Method} : method.bare.Fits ↔ method.Fits := by
  have code (body : Array Instruction) :
      ListFits (fun instruction => instruction.opcode.Fits) (body.map Instruction.bare).toList ↔
      ListFits (fun instruction => instruction.opcode.Fits) body.toList := by
    rw [Array.toList_map, ListFits, ListFits, List.length_map, List.forall_mem_map]
    rfl
  have body : (∀ code ∈ method.bare.body, ListFits (fun instruction => instruction.opcode.Fits) code.toList) ↔
      ∀ code ∈ method.body, ListFits (fun instruction => instruction.opcode.Fits) code.toList := by
    rw [Method.bare, Option.forall_mem_map]
    simp only [code]
  rw [Method.fits_iff, Method.fits_iff, body]
  rfl

theorem Module.fits_bare {module : Module} : module.bare.Fits ↔ module.Fits := by
  have methods : ListFits Method.Fits module.bare.methods ↔ ListFits Method.Fits module.methods := by
    rw [Module.bare, ListFits, ListFits, List.length_map, List.forall_mem_map]
    simp only [Method.fits_bare]
  rw [Module.fits_iff, Module.fits_iff, methods]
  rfl

namespace Reader

theorem reads_valueType {type : ValueType} (fits : type.Fits) : Reads valueType type.encode type := by
  cases type with
  | int32 | int64 | float64 | bool | char | string => exact reads_tagged fun _ => .pure _
  | object className => exact reads_tagged fun _ => (reads_text fits).result

theorem reads_member {name : Member} (fits : name.Fits) : Reads member name.encode name :=
  (reads_text fits.1).bind (reads_text fits.2).result

theorem reads_slot (n : UInt16) : Reads slot (encodeSlot n) n := by
  have read := (reads_nat 2 n.toNat_lt).map UInt16.ofNat
  rwa [UInt16.ofNat_toNat] at read

theorem reads_char (c : Char) : Reads char (littleEndian 4 c.toNat) c := by
  have valid : c.toNat.isValidChar := c.valid
  have small : c.toNat < 256 ^ 4 := c.val.toNat_lt
  have read : Reads char (littleEndian 4 c.toNat ++ []) c := by
    refine (reads_nat 4 small).bind ?_
    rw [if_pos valid, Char.ofNat_toNat]
    exact .pure c
  rwa [List.append_nil] at read

/-- Every instruction that fits is read back from its own bytes. -/
theorem reads_opcode {operation : Opcode} (fits : operation.Fits) : Reads opcode operation.encode operation := by
  cases operation with
  | nop | loadNull | arrayLength | dup | pop | add | sub | mul | div | rem | neg | not | compareEqual | compareLess
  | compareGreater | «return» | throw => exact reads_tagged fun _ => .pure _
  | loadInt32 n =>
    have same : (UInt32.ofNat n.toUInt32.toNat).toInt32 = n := by rw [UInt32.ofNat_toNat, Int32.toInt32_toUInt32]
    exact reads_tagged fun _ => (reads_nat 4 n.toUInt32.toNat_lt).gives (congrArg Opcode.loadInt32 same)
  | loadInt64 n =>
    have same : (UInt64.ofNat n.toUInt64.toNat).toInt64 = n := by rw [UInt64.ofNat_toNat, Int64.toInt64_toUInt64]
    exact reads_tagged fun _ => (reads_nat 8 n.toUInt64.toNat_lt).gives (congrArg Opcode.loadInt64 same)
  | loadFloat64 x =>
    have same : (⟨UInt64.ofNat x.bits.toNat⟩ : Double) = x := by rw [UInt64.ofNat_toNat]
    exact reads_tagged fun _ => (reads_nat 8 x.bits.toNat_lt).gives (congrArg Opcode.loadFloat64 same)
  | loadBool b => exact reads_tagged fun _ => (reads_bool b).result
  | loadChar c => exact reads_tagged fun _ => (reads_char c).result
  | loadString _ | newObject _ => exact reads_tagged fun _ => (reads_text fits).result
  | loadLocal n | loadLocalAddress n | storeLocal n | loadArg n | loadArgAddress n | storeArg n =>
    exact reads_tagged fun _ => (reads_slot n).result
  | loadField _ | loadFieldAddress _ | storeField _ | loadStaticField _ | loadStaticFieldAddress _
  | storeStaticField _ | loadFunction _ | loadVirtualFunction _ | call _ =>
    exact reads_tagged fun _ => (reads_member fits).result
  | newArray _ | loadElement _ | loadElementAddress _ | storeElement _ | loadIndirect _ | storeIndirect _
  | loadObject _
  | box _ | unbox _ | callHook _ => exact reads_tagged fun _ => (reads_valueType fits).result
  | jump _ | jumpIfTrue _ | jumpIfFalse _ => exact reads_tagged fun _ => (reads_length fits).result

theorem reads_instruction {written : Instruction} (fits : written.opcode.Fits) :
    Reads instruction written.opcode.encode written.bare :=
  (reads_opcode fits).result

theorem reads_field {declared : Field} (fits : declared.Fits) : Reads field declared.encode declared := by
  rw [Field.encode, List.append_assoc]
  exact (reads_text fits.name).bind ((reads_valueType fits.type).bind (reads_bool declared.isStatic).result)

end Reader

theorem encodeText_ne_nil (s : String) : encodeText s ≠ [] := List.cons_ne_nil _ _

theorem Opcode.encode_ne_nil (opcode : Opcode) : opcode.encode ≠ [] := by
  cases opcode <;> exact List.cons_ne_nil _ _

theorem Field.encode_ne_nil (field : Field) : field.encode ≠ [] := by
  simp [Field.encode, encodeText_ne_nil]

theorem Class.encode_ne_nil (c : Class) : c.encode ≠ [] := by
  simp [Class.encode, encodeText_ne_nil]

theorem Method.encode_ne_nil (m : Method) : m.encode ≠ [] := by
  simp [Method.encode, encodeText_ne_nil]

namespace Reader

/-! The readers of classes, methods and modules, with each list as one item. -/

theorem classDecl_eq : classDecl = (do return ⟨← text, ← counted field⟩) := by
  simp only [classDecl, counted, bind_assoc]

theorem code_eq : code = (do return (← counted instruction).toArray) := by
  simp only [code, counted, bind_assoc]

/-- The reader of a method, one field after the other in the order in which they are written. -/
theorem method_eq : method = (do
    let owner ← text
    let name ← text
    let isStatic ← bool
    let params ← list valueType
    let locals ← list valueType
    let returns ← option valueType
    let attributes ← list text
    let body ← option code
    return { owner, name, isStatic, params, locals, returns, attributes, body }) := by
  simp only [method, list, bind_assoc]

/-- The reader of a module, one field after the other in the order in which they are written. -/
theorem module_eq : module = (do
    let name ← text
    let optimized ← bool
    let debugInfo ← debugInfo
    let metadata ← list entry
    let classes ← counted classDecl
    let methods ← counted method
    return { name, optimized, debugInfo, metadata := .ofList metadata, classes, methods, sites := [] }) := by
  simp only [module, list, counted, bind_assoc]

theorem reads_classDecl {declared : Class} (fits : declared.Fits) : Reads classDecl declared.encode declared := by
  have fields := reads_counted fits.fields (fun _ => reads_field) Field.encode_ne_nil
  rw [List.map_id'] at fields
  rw [classDecl_eq]
  exact (reads_text fits.name).bind fields.result

theorem reads_code {written : Array Instruction}
    (fits : ListFits (fun instruction => instruction.opcode.Fits) written.toList) :
    Reads code (encodeCode written) (written.map Instruction.bare) := by
  have instructions := reads_counted fits (fun _ => reads_instruction) fun instruction =>
    instruction.opcode.encode_ne_nil
  have same : (written.toList.map Instruction.bare).toArray = written.map Instruction.bare := by
    rw [← Array.toList_map, Array.toArray_toList]
  rw [code_eq]
  exact instructions.gives same

/-- A method that fits is read back without its locations. -/
theorem reads_method {written : Method} (fits : written.Fits) : Reads method written.encode written.bare := by
  have params := reads_list fits.params fun _ => reads_valueType
  have locals := reads_list fits.locals fun _ => reads_valueType
  have attributes := reads_list fits.attributes fun _ => reads_text
  have returns := reads_option fun type present => reads_valueType (fits.returns type present)
  have body := reads_option fun code present => reads_code (fits.body code present)
  rw [List.map_id'] at params locals attributes
  rw [Option.map_id'] at returns
  rw [method_eq]
  simp only [Method.encode, List.append_assoc]
  exact (reads_text fits.owner).bind <| (reads_text fits.name).bind <| (reads_bool written.isStatic).bind <|
    params.bind <| locals.bind <| returns.bind <| attributes.bind body.result

theorem reads_debugInfo (written : DebugInfo) : Reads debugInfo written.encode written := by
  cases written <;> exact reads_tagged fun _ => .pure _

theorem reads_entry {written : String × String} (fits : TextFits written.1 ∧ TextFits written.2) :
    Reads entry (encodeEntry written) written :=
  (reads_text fits.1).bind (reads_text fits.2).result

end Reader

/-- What a module is written as, past the version. -/
def Module.content (m : Module) : Bytes :=
  encodeText m.name ++ encodeBool m.optimized ++ m.debugInfo.encode ++ encodeList encodeEntry m.metadata.entries ++
  encodeList Class.encode m.classes ++ encodeList Method.encode m.methods

theorem Module.encode_eq (m : Module) : m.encode = magic ++ formatVersion :: m.content := rfl

/-- The content of a module that fits is read back, without locations and sites. -/
theorem Reader.reads_module {written : Module} (fits : written.Fits) : Reads module written.content written.bare := by
  have metadata := reads_list fits.metadata fun _ => reads_entry
  have classes := reads_counted fits.classes (fun _ => reads_classDecl) Class.encode_ne_nil
  have methods := reads_counted fits.methods (fun _ => reads_method) Method.encode_ne_nil
  rw [List.map_id'] at metadata classes
  rw [module_eq]
  simp only [Module.content, List.append_assoc]
  refine (reads_text fits.name).bind <| (reads_bool written.optimized).bind <|
    (reads_debugInfo written.debugInfo).bind <| metadata.bind <| classes.bind <| methods.gives ?_
  rw [Table.ofList_entries]
  rfl

/-- A module is read from what follows the magic bytes and the version. -/
theorem Module.decode_eq_ok {bytes : Bytes} {m : Module} :
    Module.decode bytes = .ok m ↔
      ∃ rest after, bytes = magic ++ formatVersion :: rest ∧ Reader.module ⟨5, rest⟩ = .ok (m, after) := by
  constructor
  · intro decoded
    unfold Module.decode at decoded
    split at decoded
    · rename_i front version rest split
      obtain ⟨rfl, -⟩ := splitExactly_eq_some split
      split at decoded
      · cases decoded
      · rename_i marked
        split at decoded
        · cases decoded
        · rename_i known
          simp only [bne_iff_ne, ne_eq, Decidable.not_not] at marked known
          cases read : Reader.module ⟨5, rest⟩ with
          | error failure =>
            rw [read] at decoded
            cases decoded
          | ok result =>
            rw [read] at decoded
            cases decoded
            exact ⟨rest, result.2, by rw [marked, known], read⟩
    · cases decoded
  · rintro ⟨rest, after, rfl, read⟩
    have split : splitExactly 4 (magic ++ formatVersion :: rest) = some (magic, formatVersion :: rest) :=
      splitExactly_append magic _
    simp [Module.decode, split, read, Functor.map, Except.map]

theorem Module.decode_of_fits {m : Module} (fits : m.Fits) : Module.decode m.encode = .ok m.bare := by
  have read := Reader.reads_module fits 5 []
  rw [List.append_nil] at read
  exact decode_eq_ok.2 ⟨m.content, _, encode_eq m, read⟩

/-- What a module is written as is read as the module, without what is left to the symbol file, whatever
bytes follow it. -/
theorem Module.decode_encode {m : Module} (fits : m.Fits) (suffix : Bytes) :
    Module.decode (m.encode ++ suffix) = .ok m.bare := by
  refine decode_eq_ok.2 ⟨m.content ++ suffix, _, ?_, Reader.reads_module fits 5 suffix⟩
  rw [encode_eq, List.append_assoc, List.cons_append]

/-- A module with an operand of every shape, a description, a location and a site. -/
def kitchenModule : Module :=
  { name := "Kitchen", optimized := false, debugInfo := .symbolsOnly,
    metadata := .ofList [("author", "né"), ("age", "")]
    classes := [⟨"Point", [⟨"x", .float64, false⟩, ⟨"twin", .object "Point", true⟩]⟩]
    methods :=
      [{ owner := "Point", name := "all", isStatic := false, params := [.string], locals := [.object "Point", .char]
         returns := some .bool, attributes := ["Test"]
         body := some #[⟨.loadNull, none⟩, ⟨.loadInt32 (-1), none⟩, ⟨.loadInt64 (-7), some ⟨"k", 1, 1, 1, 2⟩⟩,
           ⟨.loadFloat64 ⟨0xfff8000000000001⟩, none⟩, ⟨.loadBool true, none⟩, ⟨.loadChar 'λ', none⟩,
           ⟨.loadString "héllo", none⟩, ⟨.loadLocal 1, none⟩, ⟨.loadField ⟨"Point", "x"⟩, none⟩,
           ⟨.newArray (.object "Point"), none⟩, ⟨.jumpIfTrue 4294967295, none⟩, ⟨.return, none⟩] },
       { owner := "Point", name := "len", isStatic := true, params := [], locals := [], returns := none,
         attributes := []
         body := none }]
    sites := [⟨7, .int32, ⟨"k", 1, 1, 1, 2⟩, "Point::all"⟩] }

theorem Module.decode_encode_kitchen :
    kitchenModule.Fits ∧ Module.decode (kitchenModule.encode ++ [1, 2, 3]) = .ok kitchenModule.bare := by
  have fits : kitchenModule.Fits := by decide
  exact ⟨fits, decode_encode fits [1, 2, 3]⟩

end Faultline
