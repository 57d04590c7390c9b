import Faultline.Digest.Blake3
import Faultline.Storage.ModuleFiles

namespace Faultline

/-- Why a backup cannot be made or brought back. -/
inductive SnapshotError where
  | io (failure : FileError)
  | write (failure : FileError)
  | index (path : Path)
  | missingBackup (module : String)
  | corrupt (id : String)
deriving DecidableEq, Repr

def SnapshotError.message : SnapshotError → String
  | io failure | write failure => s!"I/O error on {failure.path}: {failure.fault.message}"
  | index path => s!"malformed snapshot index {path}"
  | missingBackup module => s!"no backup recorded for module {module}"
  | corrupt id => s!"snapshot object {id} is corrupt"

/-- The objects that hold a module's backup. -/
structure SnapshotEntry where
  binary : String
  symbols : Option String
deriving DecidableEq

/-- The backup of each module by its name. -/
abbrev SnapshotIndex := Table String SnapshotEntry

namespace SnapshotEntry

def toJson (entry : SnapshotEntry) : Json :=
  .object [("binary", .string entry.binary), ("symbols", entry.symbols.elim .null .string)]

def ofJson? (json : Json) : Option SnapshotEntry := do
  match ← json.fields? [("binary", .required), ("symbols", .optional)] with
  | [some binary, symbols] => return ⟨← binary.text?, ← (symbols.getD .null).optional? Json.text?⟩
  | _ => none

end SnapshotEntry

namespace SnapshotIndex

def toJson (index : SnapshotIndex) : Json :=
  .object [("modules", .object (index.entries.map fun (name, entry) => (name, entry.toJson)))]

/-- A name may stand there repeatedly: the last entry counts, but all must be sound. -/
def ofJson? (json : Json) : Option SnapshotIndex := do
  match ← json.required? ["modules"] with
  | [.object members] =>
    return .ofList (← members.mapM fun (name, entry) => do return (name, ← SnapshotEntry.ofJson? entry))
  | _ => none

def text (index : SnapshotIndex) : String := index.toJson.render

def ofText? (text : String) : Option SnapshotIndex := (Json.parse? text).bind ofJson?

end SnapshotIndex

/-- The name of an object with these contents. -/
def objectId (bytes : Bytes) : String := hexText (blake3 bytes)

/-- Backups of modules in a folder: every file content is an object named by its digest, and an index says
which objects belong to a module. `writes` counts the files written since the store was opened. -/
structure SnapshotStore where
  root : Path
  index : SnapshotIndex
  writes : Nat

namespace SnapshotStore

def indexPath (root : Path) : Path := root.join ⟨"index.json"⟩

def objectPath (store : SnapshotStore) (id : String) : Path := (store.root.join ⟨"objects"⟩).join ⟨id⟩

def entryOf? (store : SnapshotStore) (module : String) : Option SnapshotEntry := store.index.get? module

section Reading

variable {m : Type → Type} [Monad m] [FileAccess m]

/-- Opens a store. One without an index is empty. -/
def openAt (root : Path) : ExceptT SnapshotError m SnapshotStore := do
  match ← (readText (indexPath root)).run with
  | .ok text =>
    match SnapshotIndex.ofText? text with
    | some index => return ⟨root, index, 0⟩
    | none => throw (.index (indexPath root))
  | .error ⟨_, .notFound⟩ => return ⟨root, .empty, 0⟩
  | .error failure => throw (.io failure)

/-- The contents of an object, which must still be those it is named for. -/
def object (store : SnapshotStore) (id : String) : ExceptT SnapshotError m Bytes := do
  let bytes ← (readFile (store.objectPath id)).adapt .io
  if objectId bytes = id then return bytes else throw (.corrupt id)

/-- Puts a module's files back as they were at its last backup. If there were no symbols then, there are
none afterwards. -/
def restore (store : SnapshotStore) (module : String) (files : ModuleFiles) : ExceptT SnapshotError m Unit := do
  match store.entryOf? module with
  | none => throw (.missingBackup module)
  | some entry =>
    (writeFile files.binary (← store.object entry.binary)).adapt .write
    match entry.symbols with
    | some id => (writeFile files.symbols (← store.object id)).adapt .write
    | none =>
      match ← (removeFile files.symbols).run with
      | .ok () | .error ⟨_, .notFound⟩ => return
      | .error failure => throw (.io failure)

end Reading

section Writing

variable {m : Type → Type} [Monad m] [FileAccess m]

/-- Writes a file of the store and counts it. -/
def writeCounted (path : Path) (bytes : Bytes) : ExceptT SnapshotError (StateT SnapshotStore m) Unit := do
  (writeFile path bytes).adapt .write
  modify fun store => { store with writes := store.writes + 1 }

/-- Keeps a file's contents as an object, which is written only if there is none of that name. -/
def keepFile (path : Path) : ExceptT SnapshotError (StateT SnapshotStore m) String := do
  let bytes ← (readFile path).adapt .io
  let id := objectId bytes
  let object := (← get).objectPath id
  unless ← FileAccess.isFile object do
    writeCounted object bytes
  return id

/-- Records a module's backup. The index is written only if it changes. -/
def record (module : String) (entry : SnapshotEntry) : ExceptT SnapshotError (StateT SnapshotStore m) Unit := do
  let store ← get
  unless store.entryOf? module = some entry do
    let index : SnapshotIndex := store.index.insert module entry
    set { store with index }
    writeCounted (indexPath store.root) (textBytes index.text)

/-- Backs up a module's files as they are now. -/
def backup (module : String) (files : ModuleFiles) :
    ExceptT SnapshotError (StateT SnapshotStore m) SnapshotEntry := do
  let binary ← keepFile files.binary
  let symbols ← if ← files.hasSymbols then some <$> keepFile files.symbols else pure none
  record module ⟨binary, symbols⟩
  return ⟨binary, symbols⟩

end Writing

end SnapshotStore

end Faultline
