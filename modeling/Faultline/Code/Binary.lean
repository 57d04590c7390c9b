import Faultline.Text.Quoted
import Faultline.Text.Utf8
import Faultline.Code.Module

namespace Faultline

/-- Why bytes are not a module. -/
inductive DecodeError where
  | shortHeader
  | badMagic
  | unsupportedVersion (version : UInt8)
  | truncated (offset : Nat)
  | unknownOpcode (tag : UInt8) (offset : Nat)
  | unknownDebugInfo (tag : UInt8) (offset : Nat)
  | unknownType (tag : UInt8) (offset : Nat)
  | invalidText (fault : Utf8Error)
  | invalidChar (code : Nat)
deriving DecidableEq, Repr

def DecodeError.message : DecodeError → String
  | shortHeader => "invalid module header: too few bytes for module header"
  | badMagic => "invalid module header: invalid magic number"
  | unsupportedVersion version => s!"unsupported module format version {version}"
  | truncated offset => s!"unexpected end of module data at offset {offset}"
  | unknownOpcode tag offset => s!"unknown opcode tag {tag} at offset {offset}"
  | unknownDebugInfo tag offset => s!"unknown debug info tag {tag} at offset {offset}"
  | unknownType tag offset => s!"unknown value type tag {tag} at offset {offset}"
  | invalidText fault => s!"invalid UTF-8 in module data: {fault.message}"
  | invalidChar code => s!"invalid character literal 0x{hexDigits code}"

/-! The writers. Numbers are little-endian; texts and lists are preceded by their length in four bytes. -/

def encodeLength (n : Nat) : Bytes := littleEndian 4 n

def encodeText (s : String) : Bytes := encodeLength (textBytes s).length ++ textBytes s

def encodeBool (b : Bool) : Bytes := [if b then 1 else 0]

def encodeList {α : Type} (encode : α → Bytes) (items : List α) : Bytes :=
  encodeLength items.length ++ items.flatMap encode

def encodeOption {α : Type} (encode : α → Bytes) : Option α → Bytes
  | none => [0]
  | some value => 1 :: encode value

def ValueType.encode : ValueType → Bytes
  | int32 => [0]
  | int64 => [1]
  | float64 => [2]
  | bool => [3]
  | char => [4]
  | string => [5]
  | object className => 6 :: encodeText className

def Member.encode (member : Member) : Bytes := encodeText member.owner ++ encodeText member.name

def encodeSlot (slot : UInt16) : Bytes := littleEndian 2 slot.toNat

def Opcode.encode : Opcode → Bytes
  | nop => [0]
  | loadNull => [1]
  | loadInt32 n => 2 :: littleEndian 4 n.toUInt32.toNat
  | loadInt64 n => 3 :: littleEndian 8 n.toUInt64.toNat
  | loadFloat64 x => 4 :: littleEndian 8 x.bits.toNat
  | loadBool b => 5 :: encodeBool b
  | loadChar c => 6 :: littleEndian 4 c.toNat
  | loadString s => 7 :: encodeText s
  | loadLocal slot => 8 :: encodeSlot slot
  | loadLocalAddress slot => 9 :: encodeSlot slot
  | storeLocal slot => 10 :: encodeSlot slot
  | loadArg slot => 11 :: encodeSlot slot
  | loadArgAddress slot => 12 :: encodeSlot slot
  | storeArg slot => 13 :: encodeSlot slot
  | loadField field => 14 :: field.encode
  | loadFieldAddress field => 15 :: field.encode
  | storeField field => 16 :: field.encode
  | loadStaticField field => 17 :: field.encode
  | loadStaticFieldAddress field => 18 :: field.encode
  | storeStaticField field => 19 :: field.encode
  | newArray element => 20 :: element.encode
  | arrayLength => [21]
  | loadElement element => 22 :: element.encode
  | loadElementAddress element => 23 :: element.encode
  | storeElement element => 24 :: element.encode
  | loadIndirect type => 25 :: type.encode
  | storeIndirect type => 26 :: type.encode
  | loadObject type => 27 :: type.encode
  | loadFunction method => 28 :: method.encode
  | loadVirtualFunction method => 29 :: method.encode
  | dup => [30]
  | pop => [31]
  | add => [32]
  | sub => [33]
  | mul => [34]
  | div => [35]
  | rem => [36]
  | neg => [37]
  | not => [38]
  | compareEqual => [39]
  | compareLess => [40]
  | compareGreater => [41]
  | jump target => 42 :: encodeLength target
  | jumpIfTrue target => 43 :: encodeLength target
  | jumpIfFalse target => 44 :: encodeLength target
  | .return => [45]
  | throw => [46]
  | call method => 47 :: method.encode
  | newObject className => 48 :: encodeText className
  | box type => 49 :: type.encode
  | unbox type => 50 :: type.encode
  | callHook type => 51 :: type.encode

def Field.encode (field : Field) : Bytes :=
  encodeText field.name ++ field.type.encode ++ encodeBool field.isStatic

def Class.encode (c : Class) : Bytes := encodeText c.name ++ encodeList Field.encode c.fields

/-- The instructions' opcodes; their locations are left to the symbol file. -/
def encodeCode (code : Array Instruction) : Bytes :=
  encodeList (fun instruction => instruction.opcode.encode) code.toList

def Method.encode (m : Method) : Bytes :=
  encodeText m.owner ++ encodeText m.name ++ encodeBool m.isStatic ++
  encodeList ValueType.encode m.params ++ encodeList ValueType.encode m.locals ++
  encodeOption ValueType.encode m.returns ++ encodeList encodeText m.attributes ++
  encodeOption encodeCode m.body

def DebugInfo.encode : DebugInfo → Bytes
  | none => [0]
  | symbolsOnly => [1]
  | full => [2]

/-- The four bytes that a module starts with, and the version of the format. -/
def magic : Bytes := [0x49, 0x56, 0x4D, 0x42]

def formatVersion : UInt8 := 1

def encodeEntry (entry : String × String) : Bytes := encodeText entry.1 ++ encodeText entry.2

/-- The module as bytes, without its locations and sites. -/
def Module.encode (m : Module) : Bytes :=
  magic ++ formatVersion :: (encodeText m.name ++ encodeBool m.optimized ++ m.debugInfo.encode ++
  encodeList encodeEntry m.metadata.entries ++ encodeList Class.encode m.classes ++
  encodeList Method.encode m.methods)

/-! The readers. -/

/-- The bytes still to be read, and how many were read before them. -/
structure Cursor where
  offset : Nat
  rest : Bytes
deriving DecidableEq

abbrev Reader := StateT Cursor (Except DecodeError)

namespace Reader

def fail {α : Type} (failure : DecodeError) : Reader α := fun _ => .error failure

def offset : Reader Nat := fun cursor => .ok (cursor.offset, cursor)

/-- Exactly `n` bytes. -/
def bytes (n : Nat) : Reader Bytes := fun cursor =>
  match splitExactly n cursor.rest with
  | some (front, back) => .ok (front, ⟨cursor.offset + n, back⟩)
  | none => .error (.truncated cursor.offset)

def nat (width : Nat) : Reader Nat := ofLittleEndian <$> bytes width

def byte : Reader UInt8 := UInt8.ofNat <$> nat 1

def length : Reader Nat := nat 4

def bool : Reader Bool := (· != 0) <$> byte

def text : Reader String := do
  match decodeUtf8 (← bytes (← length)) with
  | .ok text => return text
  | .error fault => fail (.invalidText fault)

/-- The length of a list whose items take at least a byte each: one past the end of the data is refused
at the offset of the length. -/
def count : Reader Nat := fun cursor => do
  let (n, after) ← length cursor
  if after.rest.length < n then throw (.truncated cursor.offset)
  return (n, after)

def replicate {α : Type} (item : Reader α) : Nat → Reader (List α)
  | 0 => return []
  | n + 1 => do
    let head ← item
    let tail ← replicate item n
    return head :: tail

def option {α : Type} (item : Reader α) : Reader (Option α) := do
  if ← bool then return some (← item) else return none

def valueType : Reader ValueType := do
  let offset ← offset
  match ← byte with
  | 0 => return .int32
  | 1 => return .int64
  | 2 => return .float64
  | 3 => return .bool
  | 4 => return .char
  | 5 => return .string
  | 6 => return .object (← text)
  | tag => fail (.unknownType tag offset)

def member : Reader Member := return ⟨← text, ← text⟩

def slot : Reader UInt16 := UInt16.ofNat <$> nat 2

def char : Reader Char := do
  let code ← nat 4
  if code.isValidChar then return .ofNat code else fail (.invalidChar code)

def opcode : Reader Opcode := do
  let offset ← offset
  match ← byte with
  | 0 => return .nop
  | 1 => return .loadNull
  | 2 => return .loadInt32 (UInt32.ofNat (← nat 4)).toInt32
  | 3 => return .loadInt64 (UInt64.ofNat (← nat 8)).toInt64
  | 4 => return .loadFloat64 ⟨UInt64.ofNat (← nat 8)⟩
  | 5 => return .loadBool (← bool)
  | 6 => return .loadChar (← char)
  | 7 => return .loadString (← text)
  | 8 => return .loadLocal (← slot)
  | 9 => return .loadLocalAddress (← slot)
  | 10 => return .storeLocal (← slot)
  | 11 => return .loadArg (← slot)
  | 12 => return .loadArgAddress (← slot)
  | 13 => return .storeArg (← slot)
  | 14 => return .loadField (← member)
  | 15 => return .loadFieldAddress (← member)
  | 16 => return .storeField (← member)
  | 17 => return .loadStaticField (← member)
  | 18 => return .loadStaticFieldAddress (← member)
  | 19 => return .storeStaticField (← member)
  | 20 => return .newArray (← valueType)
  | 21 => return .arrayLength
  | 22 => return .loadElement (← valueType)
  | 23 => return .loadElementAddress (← valueType)
  | 24 => return .storeElement (← valueType)
  | 25 => return .loadIndirect (← valueType)
  | 26 => return .storeIndirect (← valueType)
  | 27 => return .loadObject (← valueType)
  | 28 => return .loadFunction (← member)
  | 29 => return .loadVirtualFunction (← member)
  | 30 => return .dup
  | 31 => return .pop
  | 32 => return .add
  | 33 => return .sub
  | 34 => return .mul
  | 35 => return .div
  | 36 => return .rem
  | 37 => return .neg
  | 38 => return .not
  | 39 => return .compareEqual
  | 40 => return .compareLess
  | 41 => return .compareGreater
  | 42 => return .jump (← length)
  | 43 => return .jumpIfTrue (← length)
  | 44 => return .jumpIfFalse (← length)
  | 45 => return .return
  | 46 => return .throw
  | 47 => return .call (← member)
  | 48 => return .newObject (← text)
  | 49 => return .box (← valueType)
  | 50 => return .unbox (← valueType)
  | 51 => return .callHook (← valueType)
  | tag => fail (.unknownOpcode tag offset)

def instruction : Reader Instruction := return ⟨← opcode, none⟩

def field : Reader Field := return ⟨← text, ← valueType, ← bool⟩

def classDecl : Reader Class := return ⟨← text, ← replicate field (← count)⟩

def code : Reader (Array Instruction) := return (← replicate instruction (← count)).toArray

def method : Reader Method := do
  let owner ← text
  let name ← text
  let isStatic ← bool
  let params ← replicate valueType (← length)
  let locals ← replicate valueType (← length)
  let returns ← option valueType
  let attributes ← replicate text (← length)
  let body ← option code
  return { owner, name, isStatic, params, locals, returns, attributes, body }

def debugInfo : Reader DebugInfo := do
  let offset ← offset
  match ← byte with
  | 0 => return .none
  | 1 => return .symbolsOnly
  | 2 => return .full
  | tag => fail (.unknownDebugInfo tag offset)

def entry : Reader (String × String) := return (← text, ← text)

/-- What follows the version. -/
def module : Reader Module := do
  let name ← text
  let optimized ← bool
  let debugInfo ← debugInfo
  let metadata ← replicate entry (← length)
  let classes ← replicate classDecl (← count)
  let methods ← replicate method (← count)
  return { name, optimized, debugInfo, metadata := .ofList metadata, classes, methods, sites := [] }

end Reader

/-- The module that bytes start with; whatever follows it is ignored. -/
def Module.decode (bytes : Bytes) : Except DecodeError Module :=
  match splitExactly 4 bytes with
  | some (front, version :: rest) =>
    if front != magic then .error .badMagic
    else if version != formatVersion then .error (.unsupportedVersion version)
    else (·.1) <$> Reader.module ⟨5, rest⟩
  | _ => .error .shortHeader

end Faultline
