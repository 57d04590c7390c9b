import Faultline.Machine.Program
import Faultline.Value.Heap

namespace Faultline

/-- The state that outlives calls. A static field that was never stored has no entry. -/
structure Memory where
  heap : Heap
  statics : Table Member Value
deriving DecidableEq, Inhabited

namespace Heap

def loadField (heap : Heap) (target : Value) (field : Member) : Except RuntimeError Value :=
  match target with
  | .object reference =>
    match heap.field? reference field.name with
    | some value => .ok value
    | none => .error (.unknownField field.text)
  | .null => .error (.nullReference field.text)
  | other => .error (.typeMismatch "load field" other.describe)

/-- The object that a value is, if it has the field. -/
def fieldOwner (heap : Heap) (target : Value) (field : Member) : Except RuntimeError Reference :=
  match target with
  | .object reference =>
    match heap.field? reference field.name with
    | some _ => .ok reference
    | none => .error (.unknownField field.text)
  | .null => .error (.nullReference field.text)
  | other => .error (.typeMismatch "store field" other.describe)

/-- What an uncaught value says: a string itself, an object its class and, if that is a string, the field
`message`. -/
def exceptionText (heap : Heap) : Value → String
  | .string s => s
  | .object reference =>
    match heap.field? reference "message" with
    | some (.string text) => s!"{reference.className}: {text}"
    | _ => reference.className
  | other => other.text

end Heap

/-- The instance fields of a new object; of two fields with one name the later counts. -/
def Class.initialFields (c : Class) : Fields :=
  .ofList ((c.fields.filter fun field => !field.isStatic).map fun field => (field.name, field.type.default))

namespace Memory

def loadStatic (memory : Memory) (program : Program) (field : Member) : Except RuntimeError Value :=
  match memory.statics.get? field with
  | some value => .ok value
  | none => (program.field field).map (·.type.default)

/-- A change that one instruction makes to the memory. -/
inductive Effect where
  | none
  | create (className : String) (fields : Fields)
  | setField (reference : Reference) (name : String) (value : Value)
  | setStatic (field : Member) (value : Value)
deriving DecidableEq

def perform (memory : Memory) (effect : Effect) : Memory :=
  let ⟨heap, statics⟩ := memory
  match effect with
  | .none => ⟨heap, statics⟩
  | .create className fields => ⟨(heap.alloc className fields).2, statics⟩
  | .setField reference name value => ⟨heap.setField reference name value, statics⟩
  | .setStatic field value => ⟨heap, statics.insert field value⟩

end Memory

end Faultline
