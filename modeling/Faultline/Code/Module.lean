import Faultline.Table
import Faultline.Source
import Faultline.Code.Opcode

namespace Faultline

structure Instruction where
  opcode : Opcode
  location : Option Location
deriving DecidableEq, Inhabited

namespace Instruction

/-- A generated instruction of a document. -/
def hidden (opcode : Opcode) (document : String) : Instruction := ⟨opcode, some (.hidden document)⟩

def isHidden (instruction : Instruction) : Bool := instruction.location.any Location.isHidden

end Instruction

/-- How much debug information a module was compiled with. -/
inductive DebugInfo where
  | none
  | symbolsOnly
  | full
deriving DecidableEq, Inhabited, Repr

def DebugInfo.text : DebugInfo → String
  | none => "None"
  | symbolsOnly => "SymbolsOnly"
  | full => "Full"

structure Field where
  name : String
  type : ValueType
  isStatic : Bool
deriving DecidableEq, Inhabited

structure Class where
  name : String
  fields : List Field
deriving DecidableEq, Inhabited

def Class.field? (c : Class) (name : String) : Option Field := c.fields.find? (·.name = name)

/-- What an argument slot holds: the receiver or a declared parameter. -/
inductive Argument where
  | this (className : String)
  | param (type : ValueType)
deriving DecidableEq

/-- A method; without a body it is abstract or external. -/
structure Method where
  owner : String
  name : String
  isStatic : Bool
  params : List ValueType
  locals : List ValueType
  returns : Option ValueType
  attributes : List String
  body : Option (Array Instruction)
deriving DecidableEq, Inhabited

namespace Method

def member (method : Method) : Member := ⟨method.owner, method.name⟩

def qualifiedName (method : Method) : String := method.member.text

/-- The instructions, none where there is no body. -/
def code (method : Method) : Array Instruction := method.body.getD #[]

/-- The argument slots, the receiver's included. -/
def argCount (method : Method) : Nat := method.params.length + if method.isStatic then 0 else 1

/-- What slot `index` holds; the receiver of an instance method comes first. -/
def argument? (method : Method) (index : Nat) : Option Argument :=
  if method.isStatic then method.params[index]?.map .param
  else
    match index with
    | 0 => some (.this method.owner)
    | index + 1 => method.params[index]?.map .param

def hasAttribute (method : Method) (label : String) : Bool := method.attributes.contains label

/-- The values a call pops and pushes. -/
def callEffect (method : Method) : Nat × Nat :=
  (method.argCount, if method.returns.isSome then 1 else 0)

end Method

/-- A place where a value is shown to the hook. -/
structure Site where
  id : UInt32
  type : ValueType
  location : Location
  method : String
deriving DecidableEq, Inhabited

structure Module where
  name : String
  optimized : Bool
  debugInfo : DebugInfo
  metadata : Table String String
  classes : List Class
  methods : List Method
  sites : List Site
deriving DecidableEq, Inhabited

namespace Module

/-- Whether stack shapes and source locations can be trusted. -/
def isInstrumentable (module : Module) : Bool := !module.optimized && module.debugInfo = .full

def class? (module : Module) (name : String) : Option Class := module.classes.find? (·.name = name)

def field? (module : Module) (field : Member) : Option Field :=
  (module.class? field.owner).bind (·.field? field.name)

def method? (module : Module) (method : Member) : Option Method :=
  module.methods.find? fun declared => declared.member = method

def instructionCount (module : Module) : Nat :=
  module.methods.foldl (fun count method => count + method.code.size) 0

/-- The greatest number among the sites. -/
def maxSiteId? (module : Module) : Option UInt32 := (module.sites.map (·.id)).max?

/-- The values that a call of a method declared here pops and pushes. -/
def signature? (module : Module) (callee : Member) : Option (Nat × Nat) :=
  (module.method? callee).map Method.callEffect

end Module

/-- The signature from the first module that declares the callee. -/
def signatureIn? (modules : List Module) (callee : Member) : Option (Nat × Nat) :=
  modules.findSome? (·.signature? callee)

end Faultline
