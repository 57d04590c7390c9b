import Faultline.Site.Fingerprint
import Faultline.Site.Instrument
import Faultline.Storage.SnapshotStore

namespace Faultline

/-- A module to instrument. Its backup is kept under the name. -/
structure PassTarget where
  name : String
  files : ModuleFiles
deriving DecidableEq

/-- What a pass did to a module: nothing, if it carried the current stamp, or else it was instrumented,
after being restored if its stamp was stale. -/
inductive PassStatus where
  | upToDate
  | instrumented (sites : Nat) (restored : Bool)
deriving DecidableEq

structure PassOutcome where
  module : String
  status : PassStatus
deriving DecidableEq

/-- Why a pass stops. -/
inductive PassError where
  | notInstrumentable (module : String) (optimized : Bool) (debugInfo : DebugInfo)
  | missingSymbols (module : String) (path : Path)
  | instrument (failure : InstrumentError)
  | module (failure : ModuleError)
  | snapshot (failure : SnapshotError)
deriving Repr

def PassError.message : PassError → String
  | notInstrumentable name optimized debugInfo =>
    s!"module {name} is not instrumentable (optimized: {optimized}, debug info: {debugInfo.text})"
  | missingSymbols name path => s!"module {name} has no symbol file at {path}"
  | instrument failure => failure.message
  | module failure => failure.message
  | snapshot failure => failure.message

/-- A target with its module as the pass starts from it. -/
structure LoadedTarget where
  target : PassTarget
  module : Module
  current : Bool
  restored : Bool

namespace PassTarget

variable {m : Type → Type} [Monad m] [FileAccess m]

/-- Loads a target, from its backup if its stamp is stale. -/
def load (target : PassTarget) (fingerprint : String) :
    ExceptT PassError (StateT SnapshotStore m) LoadedTarget := do
  let module ← target.files.load.adapt .module
  match module.stampOf fingerprint with
  | .current => return ⟨target, module, true, false⟩
  | .unstamped => return ⟨target, module, false, false⟩
  | .stale _ =>
    ((← get).restore target.name target.files).adapt .snapshot
    return ⟨target, ← target.files.load.adapt .module, false, true⟩

end PassTarget

namespace LoadedTarget

/-- The greatest site number of the modules that are left alone. -/
def usedSiteId? (loaded : List LoadedTarget) : Option UInt32 :=
  ((loaded.filter (·.current)).filterMap (·.module.maxSiteId?)).max?

variable {m : Type → Type} [Monad m] [FileAccess m]

/-- A module that is to be instrumented needs full debug information and a symbol file. -/
def check (loaded : LoadedTarget) : ExceptT PassError m Unit := do
  let ⟨target, module, current, _⟩ := loaded
  unless current do
    unless module.isInstrumentable do
      throw (.notInstrumentable target.name module.optimized module.debugInfo)
    unless ← target.files.hasSymbols do
      throw (.missingSymbols target.name target.files.symbols)

/-- Backs up the module, instruments it with sites numbered from `next` on, and stores it with a stamp. -/
def instrument (loaded : LoadedTarget) (fingerprint : String) (fields : FieldTypes) (next : UInt32) :
    ExceptT PassError (StateT SnapshotStore m) (PassStatus × UInt32) := do
  if loaded.current then return (.upToDate, next)
  let ⟨name, files⟩ := loaded.target
  discard ((SnapshotStore.backup name files).adapt .snapshot)
  match loaded.module.instrumented fields next with
  | .error failure => throw (.instrument failure)
  | .ok (module, next) =>
    (files.store (module.stamp fingerprint)).adapt .module
    return (.instrumented module.sites.length loaded.restored, next)

end LoadedTarget

section Pass

variable {m : Type → Type} [Monad m] [FileAccess m]

def instrumentLoaded (fingerprint : String) (fields : FieldTypes) :
    List LoadedTarget → UInt32 → ExceptT PassError (StateT SnapshotStore m) (List PassOutcome)
  | [], _ => return []
  | loaded :: rest, next => do
    let (status, next) ← loaded.instrument fingerprint fields next
    return ⟨loaded.target.name, status⟩ :: (← instrumentLoaded fingerprint fields rest next)

/-- Instruments targets in order, up to the first that fails. All are loaded and checked before any is
changed, and new sites are numbered on from those of the modules that are left alone. -/
def runPass (fingerprint : String) (targets : List PassTarget) :
    ExceptT PassError (StateT SnapshotStore m) (List PassOutcome) := do
  let loaded ← targets.mapM (·.load fingerprint)
  loaded.forM LoadedTarget.check
  let fields := fieldTypeIn? (loaded.map (·.module))
  instrumentLoaded fingerprint fields loaded (siteIdAfter (LoadedTarget.usedSiteId? loaded))

end Pass

end Faultline
