import Faultline.Proofs.Code.Survey

namespace Faultline

/-! The texts of a module, and how many parts it has. -/

/-- How many bytes texts take up together. -/
def textSize (texts : List String) : Nat := (texts.map fun text => (textBytes text).length).sum

def ValueType.texts : ValueType → List String
  | object className => [className]
  | _ => []

def Member.texts (member : Member) : List String := [member.owner, member.name]

def Operand.texts : Operand → List String
  | string s => [s]
  | type t => t.texts
  | field m | method m => m.texts
  | _ => []

def Opcode.texts (opcode : Opcode) : List String := opcode.parts.2.texts

def Instruction.texts (instruction : Instruction) : List String :=
  instruction.opcode.texts ++ instruction.location.toList.map (·.document)

def Field.texts (field : Field) : List String := field.name :: field.type.texts

def Class.texts (c : Class) : List String := c.name :: c.fields.flatMap Field.texts

def Method.texts (m : Method) : List String :=
  m.owner :: m.name :: (m.params.flatMap ValueType.texts ++ m.locals.flatMap ValueType.texts ++
    m.returns.toList.flatMap ValueType.texts ++ m.attributes ++ m.code.toList.flatMap Instruction.texts)

def Site.texts (site : Site) : List String := site.type.texts ++ [site.location.document, site.method]

/-- Every text that a module holds, wherever it stands. -/
def Module.texts (m : Module) : List String :=
  m.name :: (m.metadata.entries.flatMap (fun entry => [entry.1, entry.2]) ++ m.classes.flatMap Class.texts ++
    m.methods.flatMap Method.texts ++ m.sites.flatMap Site.texts)

/-- The parameters, locals, attributes and instructions of a method. -/
def Method.partCount (m : Method) : Nat := m.params.length + m.locals.length + m.attributes.length + m.code.size

/-- The entries of the metadata, the classes and their fields, and the methods and their parts. -/
def Module.partCount (m : Module) : Nat :=
  m.metadata.entries.length + m.classes.length + (m.classes.map (·.fields.length)).sum + m.methods.length +
    (m.methods.map Method.partCount).sum

@[simp]
theorem textSize_nil : textSize [] = 0 := rfl

@[simp]
theorem textSize_cons (text : String) (texts : List String) :
    textSize (text :: texts) = (textBytes text).length + textSize texts := rfl

@[simp]
theorem textSize_append (texts texts' : List String) :
    textSize (texts ++ texts') = textSize texts + textSize texts' := by
  simp [textSize]

/-! No part of a module is written in fewer bytes than its texts have, nor than there are parts in it. -/

@[simp]
theorem length_encodeText (text : String) : (encodeText text).length = 4 + (textBytes text).length := by
  rw [encodeText, List.length_append, encodeLength, length_littleEndian]

@[simp]
theorem length_encodeBool (b : Bool) : (encodeBool b).length = 1 := rfl

/-- Where each item takes a byte for itself, beside its parts and its texts, so does each of a list. -/
theorem listed_le {α : Type} {encode : α → Bytes} {parts : α → Nat} {texts : α → List String}
    (each : ∀ item, 1 + parts item + textSize (texts item) ≤ (encode item).length) (items : List α) :
    items.length + (items.map parts).sum + textSize (items.flatMap texts) ≤ (encodeList encode items).length := by
  rw [length_encodeList]
  induction items with
  | nil => exact Nat.zero_le _
  | cons first rest ih =>
    have here := each first
    simp only [List.length_cons, List.map_cons, List.sum_cons, List.flatMap_cons, textSize_append]
    omega

/-- The same for items that have no parts. -/
theorem listed_plain_le {α : Type} {encode : α → Bytes} {texts : α → List String}
    (each : ∀ item, textSize (texts item) < (encode item).length) (items : List α) :
    items.length + textSize (items.flatMap texts) ≤ (encodeList encode items).length := by
  have alone (item : α) : 1 + 0 + textSize (texts item) ≤ (encode item).length := by
    have := each item
    omega
  simpa using listed_le alone items

theorem ValueType.textSize_lt (type : ValueType) : textSize type.texts < type.encode.length := by
  cases type with
  | object className =>
    simp only [texts, encode, textSize_cons, textSize_nil, List.length_cons, length_encodeText]
    omega
  | _ => exact Nat.one_pos

theorem Member.textSize_le (member : Member) : textSize member.texts ≤ member.encode.length := by
  simp only [texts, encode, textSize_cons, textSize_nil, List.length_append, length_encodeText]
  omega

/-- The texts of an instruction are shorter than its bytes, since the tag is one more. -/
theorem Opcode.textSize_lt (opcode : Opcode) : textSize opcode.texts < opcode.encode.length := by
  have long (text : String) (tag : UInt8) : textSize [text] < (tag :: encodeText text).length := by
    simp only [textSize_cons, textSize_nil, List.length_cons, length_encodeText]
    omega
  cases opcode with
  | loadString text | newObject text => exact long text _
  | loadField member | loadFieldAddress member | storeField member | loadStaticField member
  | loadStaticFieldAddress member
  | storeStaticField member | loadFunction member | loadVirtualFunction member | call member =>
    exact Nat.lt_succ_of_le member.textSize_le
  | newArray type | loadElement type | loadElementAddress type | storeElement type | loadIndirect type
  | storeIndirect type
  | loadObject type | box type | unbox type | callHook type => exact Nat.lt_succ_of_lt type.textSize_lt
  | _ => exact Nat.succ_pos _

theorem Field.textSize_lt (field : Field) : textSize field.texts < field.encode.length := by
  have type := field.type.textSize_lt
  simp only [texts, encode, textSize_cons, List.length_append, length_encodeText, length_encodeBool]
  omega

theorem Class.extent_lt (c : Class) : 1 + c.fields.length + textSize c.texts ≤ c.encode.length := by
  have fields := listed_plain_le Field.textSize_lt c.fields
  simp only [texts, encode, textSize_cons, List.length_append, length_encodeText]
  omega

theorem encodeEntry_textSize_lt (entry : String × String) :
    textSize [entry.1, entry.2] < (encodeEntry entry).length := by
  simp only [encodeEntry, textSize_cons, textSize_nil, List.length_append, length_encodeText]
  omega

theorem Method.code_bare (m : Method) : m.bare.code.toList = m.code.toList.map Instruction.bare := by
  cases body : m.body <;> simp [code, bare, body]

/-- The instructions of a body and their texts fit into the bytes that spell it. -/
theorem Method.code_extent_le (m : Method) :
    m.bare.code.size + textSize (m.bare.code.toList.flatMap Instruction.texts) ≤
      (encodeOption encodeCode m.body).length := by
  cases body : m.body with
  | none =>
    have empty : m.bare.code = #[] := by rw [code, bare, body]; rfl
    rw [empty]
    exact Nat.zero_le _
  | some written =>
    have plain (instruction : Instruction) : textSize instruction.bare.texts < instruction.opcode.encode.length := by
      have texts : instruction.bare.texts = instruction.opcode.texts := List.append_nil _
      rw [texts]
      exact instruction.opcode.textSize_lt
    have listed := listed_plain_le plain written.toList
    have same : m.code = written := by rw [code, body]; rfl
    rw [← Array.length_toList, code_bare, same, List.length_map, List.flatMap_map, encodeOption,
      List.length_cons, encodeCode]
    exact Nat.le_succ_of_le listed

/-- The parts and texts of a method, itself counted, fit into its bytes. -/
theorem Method.extent_lt (m : Method) : 1 + m.bare.partCount + textSize m.bare.texts ≤ m.encode.length := by
  have params := listed_plain_le ValueType.textSize_lt m.params
  have locals := listed_plain_le ValueType.textSize_lt m.locals
  have attributes : m.attributes.length + textSize m.attributes ≤ (encodeList encodeText m.attributes).length := by
    have each (text : String) : textSize [text] < (encodeText text).length := by
      simp only [textSize_cons, textSize_nil, length_encodeText]
      omega
    simpa using listed_plain_le each m.attributes
  have returns :
      textSize (m.returns.toList.flatMap ValueType.texts) ≤ (encodeOption ValueType.encode m.returns).length := by
    cases m.returns with
    | none => exact Nat.zero_le _
    | some type =>
      have := type.textSize_lt
      simp only [Option.toList_some, List.flatMap_cons, List.flatMap_nil, List.append_nil, encodeOption,
        List.length_cons]
      omega
  have code := m.code_extent_le
  have parts : m.bare.partCount = m.params.length + m.locals.length + m.attributes.length + m.bare.code.size := rfl
  have texts :
    m.bare.texts = m.owner :: m.name :: (m.params.flatMap ValueType.texts ++ m.locals.flatMap ValueType.texts ++
    m.returns.toList.flatMap ValueType.texts ++ m.attributes ++ m.bare.code.toList.flatMap Instruction.texts) := rfl
  simp only [parts, texts, encode, textSize_cons, textSize_append, List.length_append, length_encodeText,
    length_encodeBool]
  omega

/-- What a module holds beside its locations and sites is no more than the bytes that it is written in. -/
theorem Module.extent_le (m : Module) : m.bare.partCount + textSize m.bare.texts ≤ m.content.length := by
  have metadata := listed_plain_le encodeEntry_textSize_lt m.metadata.entries
  have classes := listed_le Class.extent_lt m.classes
  have methods := listed_le Method.extent_lt m.methods
  have parts :
      m.bare.partCount = m.metadata.entries.length + m.classes.length + (m.classes.map (·.fields.length)).sum +
      m.methods.length + (m.methods.map fun method => method.bare.partCount).sum := by
    simp [partCount, bare, Function.comp_def]
  have texts : m.bare.texts = m.name :: (m.metadata.entries.flatMap (fun entry => [entry.1, entry.2]) ++
      m.classes.flatMap Class.texts ++ m.methods.flatMap fun method => method.bare.texts) := by
    simp [Module.texts, bare, List.flatMap_map]
  simp only [parts, texts, content, textSize_cons, textSize_append, List.length_append, length_encodeText,
    length_encodeBool]
  omega

end Faultline
