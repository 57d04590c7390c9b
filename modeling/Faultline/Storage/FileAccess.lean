import Faultline.Storage.Path
import Faultline.Text.Utf8

namespace Faultline

/-- Why an operation on files is refused. -/
inductive Fault where
  | notFound
  | notFolder
  | isFolder
  | alreadyExists
  | notText
  | other (reason : String)
deriving DecidableEq, Repr

def Fault.message : Fault → String
  | notFound => "No such file or directory (os error 2)"
  | notFolder => "Not a directory (os error 20)"
  | isFolder => "Is a directory (os error 21)"
  | alreadyExists => "File exists (os error 17)"
  | notText => "stream did not contain valid UTF-8"
  | other reason => reason

/-- A refused operation on a path. -/
structure FileError where
  path : Path
  fault : Fault
deriving DecidableEq, Repr

/-- A monad whose actions reach files by their paths. -/
class FileAccess (m : Type → Type) where
  isFile : Path → m Bool
  read : Path → m (Except Fault Bytes)
  /-- Makes a folder and those above it, as far as there are none yet. -/
  createFolders : Path → m (Except Fault Unit)
  /-- Puts a file with these bytes in place in one step. Its folder must exist. -/
  write : Path → Bytes → m (Except Fault Unit)
  remove : Path → m (Except Fault Unit)
  /-- Every file below a folder, each folder's members in the order of their names. -/
  filesBelow : Path → m (Except Fault (List Path))

instance {m n : Type → Type} [MonadLift m n] [FileAccess m] : FileAccess n where
  isFile path := liftM (n := n) (FileAccess.isFile path : m Bool)
  read path := liftM (n := n) (FileAccess.read path : m (Except Fault Bytes))
  createFolders path := liftM (n := n) (FileAccess.createFolders path : m (Except Fault Unit))
  write path bytes := liftM (n := n) (FileAccess.write path bytes : m (Except Fault Unit))
  remove path := liftM (n := n) (FileAccess.remove path : m (Except Fault Unit))
  filesBelow path := liftM (n := n) (FileAccess.filesBelow path : m (Except Fault (List Path)))

section Operations

variable {m : Type → Type} [Monad m]

/-- An operation on a path that fails with its fault. -/
def onPath {α : Type} (path : Path) (operation : m (Except Fault α)) : ExceptT FileError m α :=
  ExceptT.mk do return (← operation).mapError fun fault => ⟨path, fault⟩

variable [FileAccess m]

def readFile (path : Path) : ExceptT FileError m Bytes := onPath path (FileAccess.read path)

def readText (path : Path) : ExceptT FileError m String := do
  match decodeUtf8 (← readFile path) with
  | .ok text => return text
  | .error _ => throw ⟨path, .notText⟩

/-- Puts a file in place, making its folder first. -/
def writeFile (path : Path) (bytes : Bytes) : ExceptT FileError m Unit := do
  onPath path.folder (FileAccess.createFolders path.folder)
  onPath path (FileAccess.write path bytes)

def removeFile (path : Path) : ExceptT FileError m Unit := onPath path (FileAccess.remove path)

end Operations

end Faultline
