import Faultline.Project.Pass
import Faultline.Text.YamlReader

namespace Faultline

/-- Production modules are instrumented, test modules hold the tests and never are. -/
inductive Role where
  | production
  | test
deriving DecidableEq, Repr

def Role.text : Role → String
  | production => "production"
  | test => "test"

structure ModuleEntry where
  name : String
  binary : Path
  symbols : Option Path
  role : Role
deriving DecidableEq

namespace ModuleEntry

def files (entry : ModuleEntry) : ModuleFiles := .ofBinary entry.binary entry.symbols

def target (entry : ModuleEntry) : PassTarget := ⟨entry.name, entry.files⟩

end ModuleEntry

/-- A project: its modules in the order they are loaded, and the settings of its commands. -/
structure Manifest where
  modules : List ModuleEntry
  backupFolder : Path
  stepLimit : Option UInt64
  testFilter : Option String
deriving DecidableEq

/-- A manifest is written in YAML if its extension says so, and otherwise in JSON. -/
def Path.isYaml (path : Path) : Bool := path.extension? = some "yaml" || path.extension? = some "yml"

section Reading

variable {ν : Type} [Document ν]

open Document

def optionalText? (value : Option ν) : Option (Option String) :=
  match value with
  | none => some none
  | some value => if isNull value then some none else (text? value).map some

def ModuleEntry.ofDocument? (document : ν) : Option ModuleEntry := do
  match ← fields? [("name", .required), ("binary", .required), ("symbols", .defaulted), ("role", .required)]
    document with
  | [some name, some binary, symbols, some role] =>
    let symbols ← optionalText? symbols
    let role ← [Role.production, .test].find? fun known => choice? role = some known.text
    return ⟨← text? name, ⟨← text? binary⟩, symbols.map Path.mk, role⟩
  | _ => none

/-- A manifest needs modules only. A step limit of null is none, but a test run is limited unless the manifest
says so. -/
def Manifest.ofDocument? (document : ν) : Option Manifest := do
  match ← fields? [("modules", .required), ("backup_dir", .defaulted), ("step_limit", .defaulted),
    ("test_filter", .defaulted)] document with
  | [some modules, backupFolder, stepLimit, testFilter] =>
    let backupFolder ← match backupFolder with
      | some folder => text? folder
      | none => some ".ivmp/backup"
    let stepLimit ← match stepLimit with
      | some limit => if isNull limit then some none else (longWord? limit).map some
      | none => some (some 1000000)
    return {
      modules := ← (← items? modules).mapM ModuleEntry.ofDocument?, backupFolder := ⟨backupFolder⟩
      stepLimit, testFilter := ← optionalText? testFilter }
  | _ => none

end Reading

namespace Manifest

/-- Sees every path from a folder. -/
def resolve (base : Path) (manifest : Manifest) : Manifest :=
  { manifest with
    modules := manifest.modules.map fun entry =>
      { entry with binary := base.join entry.binary, symbols := entry.symbols.map base.join }
    backupFolder := base.join manifest.backupFolder }

def ofText? (path : Path) (text : String) : Option Manifest :=
  if path.isYaml then (Yaml.parse? text).bind ofDocument? else (Json.parse? text).bind ofDocument?

def production (manifest : Manifest) : List ModuleEntry := manifest.modules.filter (·.role = .production)

def targets (manifest : Manifest) : List PassTarget := manifest.production.map ModuleEntry.target

/-- The only test module, or the number of them if that is not one. -/
def testModule (manifest : Manifest) : Except Nat ModuleEntry :=
  match manifest.modules.filter (·.role = .test) with
  | [single] => .ok single
  | tests => .error tests.length

end Manifest

end Faultline
