import Faultline.Code.Edit
import Faultline.Site.HookSequence

namespace Faultline

/-- A site found in a method, with the instructions that go behind instruction `index`. -/
structure PlannedSite where
  index : Nat
  site : Site
  sequence : Array Instruction
deriving DecidableEq

namespace Method

/-- Finds the sites among instructions given with their indices, numbering them from `next` on, and
answers the number after the last one given out. -/
def planSites (method : Method) (fields : FieldTypes) :
    List (Instruction × Nat) → UInt32 → Except InstrumentError (List PlannedSite) × UInt32
  | [], next => (.ok [], next)
  | (instruction, index) :: rest, next =>
    match method.siteType? fields index instruction.opcode with
    | .error failure => (.error (.classify failure), next)
    | .ok none => method.planSites fields rest next
    | .ok (some type) =>
      match locationAt method.code index with
      | none => (.error (.noLocation method.qualifiedName index), next)
      | some location =>
        let site : Site := ⟨next, type, location, method.qualifiedName⟩
        match site.hookSequence with
        | .error failure => (.error failure, next + 1)
        | .ok sequence =>
          let (planned, last) := method.planSites fields rest (next + 1)
          (planned.map (⟨index, site, sequence⟩ :: ·), last)

/-- Inserts the sequences from the last to the first, so that the indices still to come stay valid. -/
def insertSequences (method : Method) (planned : List PlannedSite) : Method :=
  planned.foldr (fun plan method => method.mapCode (insertAfter · plan.index plan.sequence)) method

end Method

/-- What instrumenting leaves behind. On an error the methods before the one at fault stay instrumented. -/
structure Instrumentation where
  methods : List Method
  next : UInt32
  sites : Except InstrumentError (List Site)

/-- Instruments methods in order, numbering their sites from `next` on. -/
def instrumentMethods (fields : FieldTypes) : List Method → UInt32 → Instrumentation
  | [], next => ⟨[], next, .ok []⟩
  | method :: rest, next =>
    match method.planSites fields method.code.toList.zipIdx next with
    | (.error failure, next) => ⟨method :: rest, next, .error failure⟩
    | (.ok planned, next) =>
      let later := instrumentMethods fields rest next
      { methods := method.insertSequences planned :: later.methods
        next := later.next
        sites := later.sites.map (planned.map (·.site) ++ ·) }

/-- Instruments every method of a module; the module's own record of sites is left alone. -/
def Module.instrument (module : Module) (fields : FieldTypes) (next : UInt32) :
    Module × UInt32 × Except InstrumentError (List Site) :=
  let done := instrumentMethods fields module.methods next
  ({ module with methods := done.methods }, done.next, done.sites)

/-- Instruments a module and records its sites in it. -/
def Module.instrumented (module : Module) (fields : FieldTypes) (next : UInt32) :
    Except InstrumentError (Module × UInt32) :=
  match module.instrument fields next with
  | (_, _, .error failure) => .error failure
  | (done, next, .ok sites) => .ok ({ done with sites }, next)

/-- Instruments the first module of the name, if there is one. -/
def instrumentFirst (fields : FieldTypes) (name : String) :
    List Module → UInt32 → Except InstrumentError (List Module × UInt32)
  | [], next => .ok ([], next)
  | module :: rest, next =>
    if module.name = name then do
      let (done, next) ← module.instrumented fields next
      return (done :: rest, next)
    else do
      let (rest, next) ← instrumentFirst fields name rest next
      return (module :: rest, next)

/-- Instruments the first module of each name in turn, numbering the sites through. -/
def instrumentNamed (fields : FieldTypes) :
    List String → List Module → UInt32 → Except InstrumentError (List Module)
  | [], modules, _ => .ok modules
  | name :: names, modules, next => do
    let (modules, next) ← instrumentFirst fields name modules next
    instrumentNamed fields names modules next

/-- The first number free when `used` is the greatest one taken. -/
def siteIdAfter (used : Option UInt32) : UInt32 := used.elim 0 (· + 1)

end Faultline
