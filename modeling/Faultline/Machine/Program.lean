import Faultline.Code.Module
import Faultline.Machine.Error

namespace Faultline

/-- Where the methods and the classes of linked modules are declared: the module, and the place within it. -/
structure Links where
  methods : Table Member (Nat × Nat)
  classes : Table String (Nat × Nat)

namespace Links

/-- Enters a class, unless one of the name has been entered. -/
def addClass (classes : Table String (Nat × Nat)) (declared : Class) (place : Nat × Nat) : Table String (Nat × Nat) :=
  if classes.contains declared.name then classes else classes.insert declared.name place

/-- Enters a method, which must not have been declared before. -/
def addMethod (methods : Table Member (Nat × Nat)) (declared : Method) (place : Nat × Nat) :
    Except RuntimeError (Table Member (Nat × Nat)) :=
  if methods.contains declared.member then .error (.duplicateMethod declared.qualifiedName)
  else .ok (methods.insert declared.member place)

def addModule (links : Links) (index : Nat) (module : Module) : Except RuntimeError Links := do
  let classes :=
    module.classes.zipIdx.foldl (fun classes (declared, place) => addClass classes declared (index, place))
    links.classes
  let methods ← module.methods.zipIdx.foldlM
    (fun methods (declared, place) => addMethod methods declared (index, place)) links.methods
  return ⟨methods, classes⟩

def ofModules (modules : List Module) : Except RuntimeError Links :=
  modules.zipIdx.foldlM (fun links (module, index) => links.addModule index module) ⟨.empty, .empty⟩

end Links

/-- Modules that run together, with the places of their methods and classes. -/
structure Program extends Links where
  modules : List Module
  linked : Links.ofModules modules = .ok toLinks

namespace Program

/-- Takes modules for a program, or names the first method that is declared again. -/
def link (modules : List Module) : Except RuntimeError Program :=
  match linked : Links.ofModules modules with
  | .ok links => .ok ⟨links, modules, linked⟩
  | .error failure => .error failure

def module? (program : Program) (name : String) : Option Module := program.modules.find? (·.name = name)

def methodAt? (program : Program) (place : Nat × Nat) : Option Method :=
  program.modules[place.1]?.bind (·.methods[place.2]?)

def classAt? (program : Program) (place : Nat × Nat) : Option Class :=
  program.modules[place.1]?.bind (·.classes[place.2]?)

def method (program : Program) (method : Member) : Except RuntimeError Method :=
  match (program.methods.get? method).bind program.methodAt? with
  | some declared => .ok declared
  | none => .error (.unknownMethod method.text)

/-- The first class of that name. -/
def findClass (program : Program) (name : String) : Except RuntimeError Class :=
  match (program.classes.get? name).bind program.classAt? with
  | some declared => .ok declared
  | none => .error (.unknownClass name)

def field (program : Program) (field : Member) : Except RuntimeError Field := do
  let owner ← program.findClass field.owner
  match owner.field? field.name with
  | some declared => .ok declared
  | none => .error (.unknownField field.text)

end Program

end Faultline
