import Faultline.CommandLine.Run

namespace Faultline

/-- What the operating system says about a refused operation. -/
def faultOf : IO.Error → Fault
  | .noFileOrDirectory .. | .noSuchThing .. => .notFound
  | .inappropriateType .. => .notFolder
  | .alreadyExists .. => .alreadyExists
  | failure => .other failure.toString

/-- An action with the fault that it may end in. -/
def attempt {α : Type} (action : IO α) : IO (Except Fault α) := do
  match ← action.toBaseIO with
  | .ok value => return .ok value
  | .error failure => return .error (faultOf failure)

/-- The members of a folder and of those below it, each folder's in the order of their names. -/
partial def listFiles (path : Path) : IO (List Path) := do
  let place := (← IO.currentDir) / path.text
  if ← place.isDir then
    let names := (← place.readDir).toList.map (·.fileName)
    let found ← (names.mergeSort (· ≤ ·)).mapM fun name => listFiles (path.join ⟨name⟩)
    return found.flatten
  else
    let _ ← place.metadata
    return [path]

instance : FileAccess IO where
  isFile path := do
    let place := (← IO.currentDir) / path.text
    return (← place.pathExists) && !(← place.isDir)
  read path := attempt do return (← IO.FS.readBinFile path.text).toList
  createFolders path := attempt (IO.FS.createDirAll path.text)
  write path bytes := attempt do
    let draft := path.text ++ ".tmp"
    IO.FS.writeBinFile draft ⟨bytes.toArray⟩
    IO.FS.rename draft path.text
  remove path := attempt (IO.FS.removeFile path.text)
  filesBelow path := attempt (listFiles path)

end Faultline

def main (arguments : List String) : IO UInt32 := do
  let outcome ← Faultline.CommandLine.run arguments
  IO.print outcome.output
  IO.eprint outcome.errors
  return outcome.exitCode.toUInt32
