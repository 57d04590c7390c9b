import Faultline.Storage.Disk
import Faultline.Proofs.Table
import Faultline.Proofs.Storage.Path

namespace Faultline

namespace Disk

/-- The contents of the file at a place. -/
def file? (disk : Disk) (place : Place) : Option Bytes :=
  match disk.node? place with
  | some (.file bytes) => some bytes
  | _ => none

/-- The place that a path leads to if nothing is in the way. -/
def placeOf (disk : Disk) (path : Path) : Place := path.steps.foldl step (disk.start path)

/-- Every place from which one of the names leads on is a folder. -/
inductive Walks (disk : Disk) : Place → List String → Prop
  | nil {place} : Walks disk place []
  | cons {place name names} : disk.node? place = some .folder → Walks disk (step place name) names →
      Walks disk place (name :: names)

/-- Every place to which one of the names leads is a folder. -/
inductive Paved (disk : Disk) : Place → List String → Prop
  | nil {place} : Paved disk place []
  | cons {place name names} : disk.node? (step place name) = some .folder → Paved disk (step place name) names →
      Paved disk place (name :: names)

/-- Nothing is in the way of a path. -/
def Reaches (disk : Disk) (path : Path) : Prop := path.text ≠ "" ∧ disk.Walks (disk.start path) path.steps

variable {disk disk' disk'' : Disk} {path : Path} {place : Place} {bytes : Bytes}

theorem file?_eq_some : disk.file? place = some bytes ↔ disk.node? place = some (.file bytes) := by
  unfold file?
  split
  · rename_i found
    rw [found, Option.some.injEq, Option.some.injEq, Node.file.injEq]
  · rename_i other
    exact iff_of_false (fun none => by cases none) (other bytes)

theorem file?_of_folder (folder : disk.node? place = some .folder) : disk.file? place = none := by
  simp only [file?, folder]

/-- A path is followed through folders to the place it names. -/
theorem follow_eq_ok {names : List String} {last : Place} :
    disk.follow place names = .ok last ↔ disk.Walks place names ∧ last = names.foldl step place := by
  induction names generalizing place with
  | nil =>
    rw [follow, Except.ok.injEq]
    exact ⟨fun same => ⟨.nil, same.symm⟩, fun same => same.2.symm⟩
  | cons name names ih =>
    have walks : disk.Walks place (name :: names) ↔ disk.node? place = some .folder ∧
        disk.Walks (step place name) names :=
      ⟨fun | .cons here later => ⟨here, later⟩, fun both => .cons both.1 both.2⟩
    rw [follow, walks, List.foldl_cons, and_assoc, ← ih]
    cases disk.node? place with
    | none => simp
    | some node => cases node <;> simp

theorem locate_eq_ok {last : Place} : disk.locate path = .ok last ↔ disk.Reaches path ∧ last = disk.placeOf path := by
  unfold locate Reaches placeOf
  rw [and_assoc, ← follow_eq_ok]
  by_cases empty : path.text = "" <;> simp [empty]

/-- A read succeeds when the path leads to a file. -/
theorem read_eq_ok : disk.read path = .ok bytes ↔ disk.Reaches path ∧
    disk.file? (disk.placeOf path) = some bytes := by
  unfold read
  cases located : disk.locate path with
  | error fault =>
    have unreached : ¬ disk.Reaches path := by
      intro reaches
      rw [locate_eq_ok.2 ⟨reaches, rfl⟩] at located
      cases located
    simp [unreached, bind, Except.bind]
  | ok last =>
    obtain ⟨reaches, rfl⟩ := locate_eq_ok.1 located
    rw [file?_eq_some, and_iff_right reaches]
    simp only [bind, Except.bind]
    cases disk.node? (disk.placeOf path) with
    | none => simp
    | some node => cases node <;> simp

theorem isFile_iff : disk.isFile path = true ↔ ∃ bytes, disk.read path = .ok bytes := by
  unfold isFile
  cases disk.read path <;> simp [Except.toBool]

/-- A write succeeds when the path leads to a place that is not a folder. -/
theorem write_eq_ok : disk.write path bytes = .ok disk' ↔
    disk.Reaches path ∧ disk.node? (disk.placeOf path) ≠ some .folder ∧ disk' = disk.put (disk.placeOf path)
      (.file bytes) := by
  unfold write
  cases located : disk.locate path with
  | error fault =>
    have unreached : ¬ disk.Reaches path := by
      intro reaches
      rw [locate_eq_ok.2 ⟨reaches, rfl⟩] at located
      cases located
    simp [unreached, bind, Except.bind]
  | ok last =>
    obtain ⟨reaches, rfl⟩ := locate_eq_ok.1 located
    simp only [bind, Except.bind, and_iff_right reaches]
    split
    · rename_i folder
      simp [folder]
    · rename_i other
      simpa [eq_comm] using fun _ => other

/-- A removal succeeds when the path leads to a file, which is then gone. -/
theorem remove_eq_ok : disk.remove path = .ok disk' ↔ disk.isFile path = true ∧
    disk' = { disk with nodes := disk.nodes.erase (disk.placeOf path) } := by
  rw [isFile_iff]
  simp only [read_eq_ok, file?_eq_some]
  unfold remove
  cases located : disk.locate path with
  | error fault =>
    have unreached : ¬ disk.Reaches path := by
      intro reaches
      rw [locate_eq_ok.2 ⟨reaches, rfl⟩] at located
      cases located
    simp [unreached, bind, Except.bind]
  | ok last =>
    obtain ⟨reaches, rfl⟩ := locate_eq_ok.1 located
    simp only [bind, Except.bind, reaches, true_and]
    split
    · rename_i absent
      simp [absent]
    · rename_i folder
      simp [folder]
    · rename_i contents found
      simp [found, eq_comm]

theorem isFile_of_remove_error {fault : Fault} (refused : disk.remove path = .error fault) :
    disk.isFile path = false := by
  rw [Bool.eq_false_iff]
  intro present
  rw [remove_eq_ok.2 ⟨present, rfl⟩] at refused
  cases refused

theorem node?_nil : disk.node? [] = some .folder := rfl

theorem node?_put (outside : place ≠ []) (node : Node) (other : Place) :
    (disk.put place node).node? other = if other = place then some node else disk.node? other := by
  unfold node? put
  rw [Table.get?_insert]
  by_cases top : other = []
  · have elsewhere : other ≠ place := fun same => outside (same.symm.trans top)
    rw [if_pos top, if_neg elsewhere, if_pos top]
  · rw [if_neg top, if_neg top]

theorem file?_of_removed (removed : disk.remove path = .ok disk') : disk'.file? (disk.placeOf path) = none := by
  obtain ⟨-, rfl⟩ := remove_eq_ok.1 removed
  rw [Option.eq_none_iff_forall_ne_some]
  intro bytes file
  have node := file?_eq_some.1 file
  rw [node?, Table.get?_erase, if_pos rfl] at node
  split at node <;> cases node

end Disk

end Faultline
