import Faultline.Project.Manifest
import Faultline.Search.Localizer

namespace Faultline

/-- Why a command on a project fails. -/
inductive CommandError where
  | io (failure : FileError)
  | manifest (path : Path)
  | testModules (found : Nat)
  | module (failure : ModuleError)
  | pass (failure : PassError)
  | localize (failure : LocalizeError)
  | walk (failure : FileError)
deriving Repr

namespace CommandError

def message : CommandError → String
  | io failure => s!"file error on {failure.path}: {failure.fault.message}"
  | manifest path => s!"invalid manifest {path}"
  | testModules found => s!"manifest must declare exactly one test module, found {found}"
  | module failure => failure.message
  | pass failure => failure.message
  | localize failure => failure.message
  | walk failure => s!"IO error for operation on {failure.path}: {failure.fault.message}"

def moduleCauses : ModuleError → List String
  | .io failure => [failure.fault.message]
  | .decode (.invalidText fault) => [fault.message]
  | _ => []

/-- What lies behind a failure, the nearest first. -/
def causes : CommandError → List String
  | io failure | walk failure | pass (.snapshot (.io failure)) | pass (.snapshot (.write failure)) =>
    [failure.fault.message]
  | module failure | pass (.module failure) => moduleCauses failure
  | localize (.suite (.load failure)) => [failure.message]
  | _ => []

end CommandError

structure LocalizeOptions where
  backupFolder : Option Path
  stepLimit : Option UInt64
  filter : Option String
  output : Option Path
  skipPass : Bool
deriving DecidableEq

/-- What `inspect` tells about a module. `methods` counts those that have a body. -/
structure ModuleSummary where
  path : Path
  name : String
  optimized : Bool
  debugInfo : DebugInfo
  hasSymbols : Bool
  stamp : Stamp
  methods : Nat
  instructions : Nat
  sites : Nat
deriving DecidableEq

namespace ModuleSummary

def ofModule (path : Path) (hasSymbols : Bool) (module : Module) : ModuleSummary :=
  { path, name := module.name, optimized := module.optimized, debugInfo := module.debugInfo, hasSymbols
    stamp := module.stampOf currentFingerprint, methods := (module.methods.filter (·.body.isSome)).length
    instructions := module.instructionCount, sites := module.sites.length }

def stampText : Stamp → String
  | .unstamped => "not instrumented"
  | .current => "instrumented"
  | .stale found => s!"stale ({String.ofList (found.toList.take 12)})"

def debugText : DebugInfo → String
  | .full => ""
  | .symbolsOnly => ", symbols only"
  | .none => ", no debug info"

def text (s : ModuleSummary) : String :=
  s!"{s.name} [{s.path}] {stampText s.stamp}: {s.methods} methods, {s.instructions} instructions, " ++
  s!"{s.sites} sites, " ++ (if s.optimized then "optimized" else "debug") ++ debugText s.debugInfo ++
  if s.hasSymbols then "" else ", no symbol file"

end ModuleSummary

variable {m : Type → Type} [Monad m] [FileAccess m]

namespace Manifest

/-- Reads a manifest, whose relative paths are meant to start from its own folder. -/
def load (path : Path) : ExceptT CommandError m Manifest := do
  let text ← (readText path).adapt .io
  match ofText? path text with
  | some manifest => return manifest.resolve (path.parent?.getD ⟨""⟩)
  | none => throw (.manifest path)

/-- Instruments every production module. -/
def instrument (manifest : Manifest) (backupFolder : Option Path) : ExceptT CommandError m (List PassOutcome) := do
  let store ← (SnapshotStore.openAt (backupFolder.getD manifest.backupFolder)).adapt (.pass ∘ .snapshot)
  let (result, _) ← ((runPass currentFingerprint manifest.targets).run.run store : m _)
  match result with
  | .ok outcomes => return outcomes
  | .error failure => throw (.pass failure)

/-- Looks for faults in a suite that has not run yet. -/
def report (suite : TestSuite) (filter : Option String) : Except LocalizeError Report := do
  let localizer ← Localizer.ofSuite suite filter .empty
  let (_, localizer) := localizer.recordBaseline TestSuite.executor
  let ((baseline, findings), localizer) ← localizer.search TestSuite.executor
  return .make baseline findings (localizer.rank findings)

/-- Instruments the project unless told otherwise, looks for faults in it, and writes the report where asked. -/
def localize (manifest : Manifest) (options : LocalizeOptions) : ExceptT CommandError m Report := do
  match manifest.testModule with
  | .error found => throw (.testModules found)
  | .ok test =>
    unless options.skipPass do
      discard (manifest.instrument options.backupFolder)
    let modules ← manifest.modules.mapM fun entry => entry.files.load.adapt .module
    let steps := options.stepLimit <|> manifest.stepLimit
    match TestSuite.load modules test.name { steps } with
    | .error failure => throw (.localize (.suite failure))
    | .ok suite =>
      match report suite (options.filter <|> manifest.testFilter) with
      | .error failure => throw (.localize failure)
      | .ok report =>
        if let some output := options.output then
          (onPath output (FileAccess.write output (textBytes report.text))).adapt .io
        return report

end Manifest

def summarize (path : Path) : ExceptT CommandError m ModuleSummary := do
  let files := ModuleFiles.ofBinary path none
  let module ← files.load.adapt .module
  return .ofModule path (← files.hasSymbols) module

/-- Describes binaries, and after them every file below a folder whose name ends like theirs. -/
def inspect (files : List Path) (folder : Option Path) : ExceptT CommandError m (List ModuleSummary) := do
  let found ← match folder with
    | some folder => (onPath folder (FileAccess.filesBelow folder)).adapt .walk
    | none => pure []
  (files ++ found.filter (·.extension? = some "ivm")).mapM summarize

end Faultline
