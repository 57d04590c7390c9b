import Faultline.Machine.Basic
import Faultline.Recording.Recorder
import Faultline.Search.Executor

namespace Faultline

/-- Why there are no tests to run. -/
inductive SuiteError where
  | load (failure : RuntimeError)
  | unknownTestModule (name : String)
deriving DecidableEq, Repr

def SuiteError.message : SuiteError → String
  | load failure => s!"failed to load modules: {failure.message}"
  | unknownTestModule name => s!"test module {name} is not loaded"

/-- A test is a static method without parameters that has a body and the attribute `Test`. -/
def Method.isTest (method : Method) : Bool :=
  method.isStatic && method.params.isEmpty && method.body.isSome && method.hasAttribute "Test"

/-- The tests of one module of a program. -/
structure TestSuite where
  machine : Machine
  tests : List Member

namespace TestSuite

/-- Links modules and collects the tests of the first one with the given name. -/
def load (modules : List Module) (testModule : String) (limits : Limits) :
    Except SuiteError TestSuite := do
  let program ← (Program.link modules).mapError .load
  match program.module? testModule with
  | none => .error (.unknownTestModule testModule)
  | some module =>
    return ⟨.load program limits .empty, (module.methods.filter Method.isTest).map Method.member⟩

/-- The sites of every module of the program. -/
def sites (suite : TestSuite) : SiteTable := .ofModules suite.machine.program.modules

def verdict : Except RuntimeError (Option Value) → TestResult
  | .ok _ => .pass
  | .error (.thrown text _) => .fail text
  | .error failure => if failure.isInconclusive then .inconclusive failure.message else .fail failure.message

/-- Runs a test with no static field stored. -/
def run {σ : Type} (hook : Hook σ) (test : String) (suite : TestSuite) (hookState : σ) (heap : Heap) :
    TestResult × TestSuite × σ × Heap :=
  match suite.tests.find? (·.text = test) with
  | none => (.inconclusive s!"unknown test {test}", suite, hookState, heap)
  | some method =>
    let ⟨machine, tests⟩ := suite
    let machine := { machine with memory := ⟨heap, .empty⟩ }
    let (result, machine, hookState) := machine.invoke hook hookState method []
    let ⟨program, limits, memory, steps⟩ := machine
    (verdict result, ⟨⟨program, limits, ⟨.empty, memory.statics⟩, steps⟩, tests⟩, hookState, memory.heap)

def executor : Executor TestSuite :=
  { tests := fun suite => suite.tests.map Member.text
    run }

end TestSuite

end Faultline
