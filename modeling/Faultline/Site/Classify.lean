import Faultline.Code.OpcodeText
import Faultline.Code.Module

namespace Faultline

/-- Why it cannot be told whether an instruction loads an observable value. -/
inductive ClassifyError where
  | unsupportedLoad (method : String) (index : Nat) (opcode : String)
  | unknownLocal (method : String) (index : Nat) (slot : UInt16)
  | unknownArgument (method : String) (index : Nat) (slot : UInt16)
  | unknownField (method : String) (index : Nat) (field : String)
deriving DecidableEq, Repr

def ClassifyError.message : ClassifyError → String
  | unsupportedLoad method index opcode =>
    s!"unsupported load {opcode} at instruction {index} in {method}"
  | unknownLocal method index slot => s!"undeclared local {slot} at instruction {index} in {method}"
  | unknownArgument method index slot => s!"undeclared argument {slot} at instruction {index} in {method}"
  | unknownField method index field => s!"undeclared field {field} at instruction {index} in {method}"

/-- The declared type of a field, where its class is known. -/
abbrev FieldTypes := Member → Option ValueType

def Module.fieldType? (module : Module) (field : Member) : Option ValueType :=
  (module.field? field).map (·.type)

/-- The type from the first module that declares the field. -/
def fieldTypeIn? (modules : List Module) : FieldTypes := fun field =>
  modules.findSome? (·.fieldType? field)

/-- The declared type of the value that instruction `index` loads, if it is one to be observed: that of a
local, a parameter or a field. The receiver is never observed, since another would be unsound. -/
def Method.siteType? (method : Method) (fields : FieldTypes) (index : Nat) (opcode : Opcode) :
    Except ClassifyError (Option ValueType) :=
  match opcode with
  | .loadLocal slot =>
    match method.locals[slot.toNat]? with
    | some type => .ok (some type)
    | none => .error (.unknownLocal method.qualifiedName index slot)
  | .loadArg slot =>
    match method.argument? slot.toNat with
    | some (.this _) => .ok none
    | some (.param type) => .ok (some type)
    | none => .error (.unknownArgument method.qualifiedName index slot)
  | .loadField field | .loadStaticField field =>
    match fields field with
    | some type => .ok (some type)
    | none => .error (.unknownField method.qualifiedName index field.text)
  | .loadIndirect _ | .loadObject _ =>
    .error (.unsupportedLoad method.qualifiedName index opcode.debugText)
  | _ => .ok none

end Faultline
