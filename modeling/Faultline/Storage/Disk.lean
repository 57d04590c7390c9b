import Faultline.Storage.FileAccess
import Faultline.Table

namespace Faultline

/-- The names that lead to a place from the top. -/
abbrev Place := List String

inductive Node where
  | folder
  | file (bytes : Bytes)
deriving DecidableEq

/-- Files and folders by their places, the top folder left out, with the folder that relative paths
start from. -/
structure Disk where
  nodes : Table Place Node
  workingFolder : Place

namespace Disk

def node? (disk : Disk) (place : Place) : Option Node :=
  if place = [] then some .folder else disk.nodes.get? place

def put (disk : Disk) (place : Place) (node : Node) : Disk :=
  { disk with nodes := disk.nodes.insert place node }

/-- The place that a name leads to. -/
def step (place : Place) (name : String) : Place :=
  if name = "." then place else if name = ".." then place.dropLast else place ++ [name]

/-- Follows names from a place. All places but the last must be folders. -/
def follow (disk : Disk) : Place → List String → Except Fault Place
  | place, [] => .ok place
  | place, name :: names =>
    match disk.node? place with
    | none => .error .notFound
    | some (.file _) => .error .notFolder
    | some .folder => disk.follow (step place name) names

def start (disk : Disk) (path : Path) : Place := if path.isAbsolute then [] else disk.workingFolder

def locate (disk : Disk) (path : Path) : Except Fault Place :=
  if path.text = "" then .error .notFound else disk.follow (disk.start path) path.steps

def read (disk : Disk) (path : Path) : Except Fault Bytes := do
  match disk.node? (← disk.locate path) with
  | none => .error .notFound
  | some .folder => .error .isFolder
  | some (.file bytes) => .ok bytes

def isFile (disk : Disk) (path : Path) : Bool := (disk.read path).toBool

def write (disk : Disk) (path : Path) (bytes : Bytes) : Except Fault Disk := do
  let place ← disk.locate path
  match disk.node? place with
  | some .folder => .error .isFolder
  | _ => .ok (disk.put place (.file bytes))

def remove (disk : Disk) (path : Path) : Except Fault Disk := do
  let place ← disk.locate path
  match disk.node? place with
  | none => .error .notFound
  | some .folder => .error .isFolder
  | some (.file _) => .ok { disk with nodes := disk.nodes.erase place }

/-- Follows names from a place and makes a folder wherever there is nothing. What was made before a file
gets in the way stays. -/
def makeFolders (disk : Disk) : Place → List String → Except Fault Unit × Disk
  | _, [] => (.ok (), disk)
  | place, name :: names =>
    let place := step place name
    match disk.node? place with
    | some .folder => disk.makeFolders place names
    | some (.file _) => (.error (if names = [] then .alreadyExists else .notFolder), disk)
    | none => (disk.put place .folder).makeFolders place names

def createFolders (disk : Disk) (path : Path) : Except Fault Unit × Disk :=
  disk.makeFolders (disk.start path) path.steps

/-- The files at a place or below it with the names that lead to them from there. -/
def filesFrom (disk : Disk) (place : Place) : List (List String) :=
  disk.nodes.entries.filterMap fun (found, node) =>
    if place.isPrefixOf found && node != .folder then some (found.drop place.length) else none

def filesBelow (disk : Disk) (path : Path) : Except Fault (List Path) := do
  let place ← disk.locate path
  match disk.node? place with
  | none => .error .notFound
  | some _ => .ok ((disk.filesFrom place).map fun names => names.foldl (fun path name => path.join ⟨name⟩) path)

/-- Keeps the old disk where there is no new one. -/
def keep (disk : Disk) : Except Fault Disk → Except Fault Unit × Disk
  | .ok disk => (.ok (), disk)
  | .error fault => (.error fault, disk)

instance : FileAccess (StateM Disk) where
  isFile path := do return (← get).isFile path
  read path := do return (← get).read path
  createFolders path := modifyGet (·.createFolders path)
  write path bytes := modifyGet fun disk => disk.keep (disk.write path bytes)
  remove path := modifyGet fun disk => disk.keep (disk.remove path)
  filesBelow path := do return (← get).filesBelow path

end Disk

end Faultline
