import Faultline.Code.Binary
import Faultline.Code.Symbols
import Faultline.Storage.FileAccess

namespace Faultline

/-- Where a module is kept: its binary, and the symbols that go with it. -/
structure ModuleFiles where
  binary : Path
  symbols : Path
deriving DecidableEq

/-- Why a module cannot be loaded or stored. -/
inductive ModuleError where
  | io (failure : FileError)
  | decode (failure : DecodeError)
  | symbols (path : Path)
  | mismatch (module : String) (failure : SymbolMismatch)
deriving Repr

def ModuleError.message : ModuleError → String
  | io failure => s!"I/O error on {failure.path}: {failure.fault.message}"
  | decode failure => failure.message
  | symbols path => s!"malformed symbol file {path}"
  | mismatch module failure => failure.message module

namespace ModuleFiles

/-- Symbols stand beside the binary unless another place is named for them. -/
def ofBinary (binary : Path) (symbols : Option Path) : ModuleFiles :=
  ⟨binary, symbols.getD (binary.withExtension "isym")⟩

variable {m : Type → Type} [Monad m] [FileAccess m]

def hasSymbols (files : ModuleFiles) : m Bool := FileAccess.isFile files.symbols

def readSymbols (files : ModuleFiles) : ExceptT ModuleError m Symbols := do
  let text ← (readText files.symbols).adapt .io
  match Symbols.ofText? text with
  | some symbols => return symbols
  | none => throw (.symbols files.symbols)

/-- Loads a module, with its symbols if there are any. -/
def load (files : ModuleFiles) : ExceptT ModuleError m Module := do
  let bytes ← (readFile files.binary).adapt .io
  match Module.decode bytes with
  | .error failure => throw (.decode failure)
  | .ok module =>
    if ← files.hasSymbols then
      match (← files.readSymbols).applyTo module with
      | (module, .ok ()) => return module
      | (module, .error failure) => throw (.mismatch module.name failure)
    else return module

/-- Writes the binary and then the symbols. -/
def store (files : ModuleFiles) (module : Module) : ExceptT ModuleError m Unit := do
  (writeFile files.binary module.encode).adapt .io
  (writeFile files.symbols (textBytes module.symbols.text)).adapt .io

end ModuleFiles

end Faultline
