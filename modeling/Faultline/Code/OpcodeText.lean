import Faultline.Code.Opcode

namespace Faultline

/-- What stands behind an opcode's name. -/
inductive Operand where
  | none
  | int32 (n : Int32)
  | int64 (n : Int64)
  | float64 (x : Double)
  | bool (b : Bool)
  | char (c : Char)
  | string (s : String)
  | slot (n : UInt16)
  | target (n : Nat)
  | type (t : ValueType)
  | field (m : Member)
  | method (m : Member)
deriving DecidableEq

namespace Opcode

/-- An opcode's name and its operand. -/
def parts : Opcode → String × Operand
  | nop => ("Nop", .none)
  | loadNull => ("LoadNull", .none)
  | loadInt32 n => ("LoadInt32", .int32 n)
  | loadInt64 n => ("LoadInt64", .int64 n)
  | loadFloat64 x => ("LoadFloat64", .float64 x)
  | loadBool b => ("LoadBool", .bool b)
  | loadChar c => ("LoadChar", .char c)
  | loadString s => ("LoadString", .string s)
  | loadLocal slot => ("LoadLocal", .slot slot)
  | loadLocalAddress slot => ("LoadLocalAddress", .slot slot)
  | storeLocal slot => ("StoreLocal", .slot slot)
  | loadArg slot => ("LoadArg", .slot slot)
  | loadArgAddress slot => ("LoadArgAddress", .slot slot)
  | storeArg slot => ("StoreArg", .slot slot)
  | loadField field => ("LoadField", .field field)
  | loadFieldAddress field => ("LoadFieldAddress", .field field)
  | storeField field => ("StoreField", .field field)
  | loadStaticField field => ("LoadStaticField", .field field)
  | loadStaticFieldAddress field => ("LoadStaticFieldAddress", .field field)
  | storeStaticField field => ("StoreStaticField", .field field)
  | newArray element => ("NewArray", .type element)
  | arrayLength => ("ArrayLength", .none)
  | loadElement element => ("LoadElement", .type element)
  | loadElementAddress element => ("LoadElementAddress", .type element)
  | storeElement element => ("StoreElement", .type element)
  | loadIndirect type => ("LoadIndirect", .type type)
  | storeIndirect type => ("StoreIndirect", .type type)
  | loadObject type => ("LoadObject", .type type)
  | loadFunction method => ("LoadFunction", .method method)
  | loadVirtualFunction method => ("LoadVirtualFunction", .method method)
  | dup => ("Dup", .none)
  | pop => ("Pop", .none)
  | add => ("Add", .none)
  | sub => ("Sub", .none)
  | mul => ("Mul", .none)
  | div => ("Div", .none)
  | rem => ("Rem", .none)
  | neg => ("Neg", .none)
  | not => ("Not", .none)
  | compareEqual => ("CompareEqual", .none)
  | compareLess => ("CompareLess", .none)
  | compareGreater => ("CompareGreater", .none)
  | jump target => ("Jump", .target target)
  | jumpIfTrue target => ("JumpIfTrue", .target target)
  | jumpIfFalse target => ("JumpIfFalse", .target target)
  | .return => ("Return", .none)
  | throw => ("Throw", .none)
  | call method => ("Call", .method method)
  | newObject className => ("NewObject", .string className)
  | box type => ("Box", .type type)
  | unbox type => ("Unbox", .type type)
  | callHook type => ("CallHook", .type type)

end Opcode

/-- A record with the two parts of a member's name. -/
def Member.debugText (kind : String) (member : Member) : String :=
  s!"{kind} \x7b class: {quoteString member.owner}, name: {quoteString member.name} \x7d"

def Operand.debugText : Operand → String
  | none => ""
  | int32 n => n.toInt.repr
  | int64 n => n.toInt.repr
  | float64 x => x.text
  | bool b => if b then "true" else "false"
  | char c => quoteChar c
  | string s => quoteString s
  | slot n => n.toNat.repr
  | target n => n.repr
  | type t => t.debugText
  | field m => m.debugText "FieldRef"
  | method m => m.debugText "MethodRef"

/-- The opcode as a constructor applied to its operand. -/
def Opcode.debugText (opcode : Opcode) : String :=
  match opcode.parts with
  | (name, .none) => name
  | (name, operand) => s!"{name}({operand.debugText})"

end Faultline
