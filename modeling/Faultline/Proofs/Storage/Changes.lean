import Mathlib.Data.List.Induction
import Faultline.Proofs.Storage.Disk

namespace Faultline

namespace Disk

/-- What happens to a disk while files are put at the touched places or taken away there: folders may be
made anywhere, and none goes. -/
structure Changes (touched : Place → Prop) (disk disk' : Disk) : Prop where
  workingFolder : disk'.workingFolder = disk.workingFolder
  folders : ∀ place, disk.node? place = some .folder → disk'.node? place = some .folder
  files : ∀ place, ¬ touched place → disk'.file? place = disk.file? place

variable {touched touched' : Place → Prop} {disk disk' disk'' : Disk} {path : Path} {place : Place}
  {names : List String} {bytes : Bytes}

theorem Walks.mono (folders : ∀ place, disk.node? place = some .folder → disk'.node? place = some .folder)
    (walks : disk.Walks place names) : disk'.Walks place names := by
  induction walks with
  | nil => exact .nil
  | cons here _ ih => exact .cons (folders _ here) ih

theorem Paved.mono (folders : ∀ place, disk.node? place = some .folder → disk'.node? place = some .folder)
    (paved : disk.Paved place names) : disk'.Paved place names := by
  induction paved with
  | nil => exact .nil
  | cons here _ ih => exact .cons (folders _ here) ih

theorem ne_nil_of_vacant (vacant : disk.node? place = none) : place ≠ [] := by
  rintro rfl
  cases vacant

namespace Changes

theorem refl (disk : Disk) : Changes touched disk disk := ⟨rfl, fun _ folder => folder, fun _ _ => rfl⟩

theorem trans (first : Changes touched disk disk') (second : Changes touched disk' disk'') :
    Changes touched disk disk'' :=
  ⟨second.workingFolder.trans first.workingFolder, fun place folder =>
    second.folders place (first.folders place folder),
    fun place untouched => (second.files place untouched).trans (first.files place untouched)⟩

theorem mono (changes : Changes touched disk disk') (more : ∀ place, touched place → touched' place) :
    Changes touched' disk disk' :=
  ⟨changes.workingFolder, changes.folders, fun place untouched => changes.files place (mt (more place) untouched)⟩

theorem start (changes : Changes touched disk disk') (path : Path) : disk'.start path = disk.start path := by
  rw [Disk.start, Disk.start, changes.workingFolder]

theorem placeOf (changes : Changes touched disk disk') (path : Path) : disk'.placeOf path = disk.placeOf path := by
  rw [Disk.placeOf, Disk.placeOf, changes.start]

theorem reaches (changes : Changes touched disk disk') (reaches : disk.Reaches path) : disk'.Reaches path := by
  refine ⟨reaches.1, ?_⟩
  rw [changes.start]
  exact reaches.2.mono changes.folders

theorem paved (changes : Changes touched disk disk') (path : Path) (paved : disk.Paved (disk.start path) path.steps) :
    disk'.Paved (disk'.start path) path.steps := by
  rw [changes.start]
  exact paved.mono changes.folders

/-- A file that is not touched can still be read. -/
theorem read (changes : Changes touched disk disk') (untouched : ¬ touched (disk.placeOf path))
    (found : disk.read path = .ok bytes) : disk'.read path = .ok bytes := by
  obtain ⟨reaches, file⟩ := read_eq_ok.1 found
  refine read_eq_ok.2 ⟨changes.reaches reaches, ?_⟩
  rw [changes.placeOf, changes.files _ untouched, file]

theorem put_file (outside : disk.node? place ≠ some .folder) (bytes : Bytes) :
    Changes (· = place) disk (disk.put place (.file bytes)) := by
  have below : place ≠ [] := fun top => outside (top ▸ node?_nil)
  refine ⟨rfl, fun other folder => ?_, fun other elsewhere => ?_⟩
  · rw [node?_put below, if_neg fun same : other = place => outside (same ▸ folder), folder]
  · rw [file?, file?, node?_put below, if_neg elsewhere]

/-- A new folder changes no file. -/
theorem put_folder (vacant : disk.node? place = none) : Changes touched disk (disk.put place .folder) := by
  have below := ne_nil_of_vacant vacant
  refine ⟨rfl, fun other folder => ?_, fun other _ => ?_⟩
  · rw [node?_put below]
    split <;> [rfl; exact folder]
  · rw [file?, file?, node?_put below]
    by_cases same : other = place
    · rw [if_pos same, same, vacant]
    · rw [if_neg same]

end Changes

theorem file?_put (outside : disk.node? place ≠ some .folder) (bytes : Bytes) :
    (disk.put place (.file bytes)).file? place = some bytes := by
  have below : place ≠ [] := fun top => outside (top ▸ node?_nil)
  rw [file?_eq_some, node?_put below, if_pos rfl]

/-- Making folders changes no file, and afterwards the folders are there. -/
theorem makeFolders_eq_ok (made : disk.makeFolders place names = (.ok (), disk')) :
    Changes touched disk disk' ∧ disk'.Paved place names := by
  induction names generalizing disk place with
  | nil =>
    cases made
    exact ⟨.refl _, .nil⟩
  | cons name names ih =>
    simp only [makeFolders] at made
    cases there : disk.node? (step place name) with
    | none =>
      rw [there] at made
      obtain ⟨changes, paved⟩ := ih made
      have new : Changes touched disk _ := Changes.put_folder there
      refine ⟨new.trans changes, .cons (changes.folders _ ?_) paved⟩
      rw [node?_put (ne_nil_of_vacant there), if_pos rfl]
    | some node =>
      rw [there] at made
      cases node with
      | folder =>
        obtain ⟨changes, paved⟩ := ih made
        exact ⟨changes, .cons (changes.folders _ there) paved⟩
      | file bytes => cases made

theorem makeFolders_of_paved (paved : disk.Paved place names) : disk.makeFolders place names = (.ok (), disk) := by
  induction paved with
  | nil => rfl
  | cons here _ ih =>
    rw [makeFolders, here]
    exact ih

theorem createFolders_eq_ok (made : disk.createFolders path = (.ok (), disk')) :
    Changes touched disk disk' ∧ disk'.Paved (disk.start path) path.steps := by
  rw [createFolders] at made
  exact makeFolders_eq_ok made

theorem createFolders_of_paved (paved : disk.Paved (disk.start path) path.steps) :
    disk.createFolders path = (.ok (), disk) := by
  rw [createFolders]
  exact makeFolders_of_paved paved

/-- A file is written, and its folder made before. -/
def Writes (disk : Disk) (path : Path) (bytes : Bytes) (disk' : Disk) : Prop :=
  ∃ between, disk.createFolders path.folder = (.ok (), between) ∧ between.write path bytes = .ok disk'

/-- The folders above a path are there. -/
structure Ready (disk : Disk) (path : Path) : Prop where
  paved : disk.Paved (disk.start path.folder) path.folder.steps

/-- A file that is named without a folder, from the top. -/
theorem Ready.of_top (top : disk.start path.folder = []) (here : path.folder.steps = ["."]) : disk.Ready path := by
  refine ⟨?_⟩
  rw [top, here]
  exact .cons rfl .nil

theorem Changes.ready (changes : Changes touched disk disk') (ready : disk.Ready path) : disk'.Ready path :=
  ⟨changes.paved path.folder ready.paved⟩

namespace Writes

theorem changes (writes : disk.Writes path bytes disk') : Changes (· = disk.placeOf path) disk disk' := by
  obtain ⟨between, made, written⟩ := writes
  have folders : Changes (· = disk.placeOf path) disk between := (createFolders_eq_ok made).1
  obtain ⟨-, outside, rfl⟩ := write_eq_ok.1 written
  have later := Changes.put_file outside bytes
  rw [folders.placeOf] at later
  rw [folders.placeOf]
  exact folders.trans later

theorem ready (writes : disk.Writes path bytes disk') : disk'.Ready path := by
  obtain ⟨between, made, written⟩ := writes
  have folders : Changes (fun _ => False) disk between ∧ between.Paved (disk.start path.folder) path.folder.steps :=
    createFolders_eq_ok made
  obtain ⟨-, outside, rfl⟩ := write_eq_ok.1 written
  have paved : between.Ready path := ⟨folders.1.start _ ▸ folders.2⟩
  exact (Changes.put_file outside bytes).ready paved

theorem read (writes : disk.Writes path bytes disk') : disk'.read path = .ok bytes := by
  obtain ⟨between, -, written⟩ := writes
  obtain ⟨reaches, outside, rfl⟩ := write_eq_ok.1 written
  have later := Changes.put_file outside bytes
  refine read_eq_ok.2 ⟨later.reaches reaches, ?_⟩
  rw [later.placeOf, file?_put outside]

/-- A file can be written where there is no folder of its name, but the folders above it are. -/
theorem of_reaches (ready : disk.Ready path) (reaches : disk.Reaches path)
    (outside : disk.node? (disk.placeOf path) ≠ some .folder) (bytes : Bytes) :
    disk.Writes path bytes (disk.put (disk.placeOf path) (.file bytes)) :=
  ⟨disk, createFolders_of_paved ready.paved, write_eq_ok.2 ⟨reaches, outside, rfl⟩⟩

/-- A file whose folders are there can be written anew. -/
theorem of_ready {old : Bytes} (ready : disk.Ready path) (found : disk.read path = .ok old) (bytes : Bytes) :
    ∃ disk', disk.Writes path bytes disk' := by
  obtain ⟨reaches, file⟩ := read_eq_ok.1 found
  refine ⟨_, of_reaches ready reaches ?_ bytes⟩
  rw [file?_eq_some.1 file]
  exact fun folder => by cases folder

end Writes

/-- Removing a file changes the place of that file only. -/
theorem Changes.remove (removed : disk.remove path = .ok disk') : Changes (· = disk.placeOf path) disk disk' := by
  obtain ⟨found, rfl⟩ := remove_eq_ok.1 removed
  obtain ⟨bytes, found⟩ := isFile_iff.1 found
  have file := file?_eq_some.1 (read_eq_ok.1 found).2
  have erased (other : Place) (elsewhere : other ≠ disk.placeOf path) :
      node? { disk with nodes := disk.nodes.erase (disk.placeOf path) } other = disk.node? other := by
    rw [node?, node?, Table.get?_erase, if_neg elsewhere]
  refine ⟨rfl, fun other folder => ?_, fun other elsewhere => ?_⟩
  · have elsewhere : other ≠ disk.placeOf path := by
      rintro rfl
      rw [file] at folder
      cases folder
    rw [erased other elsewhere, folder]
  · rw [file?, file?, erased other elsewhere]

/-! Disks on which nothing stands but in folders. -/

/-- The folder of whatever is on the disk is there. -/
structure Sound (disk : Disk) : Prop where
  parents : ∀ place, disk.node? place ≠ none → disk.node? place.dropLast = some .folder

/-- A path that leads back up leads there already, through folders that exist. -/
def Settled (disk : Disk) (path : Path) : Prop := ".." ∈ path.steps → disk.Reaches path

theorem sound_of_entries
    (parents : ∀ entry ∈ disk.nodes.entries, disk.node? entry.1.dropLast = some .folder) : disk.Sound := by
  refine ⟨fun place present => ?_⟩
  by_cases top : place = []
  · rw [top]
    exact node?_nil
  · rw [node?, if_neg top] at present
    obtain ⟨node, found⟩ := Option.ne_none_iff_exists'.1 present
    exact parents _ (Table.mem_of_get? found)

theorem node?_of_listed {node : Node} {entries : List (Place × Node)} (nodes : disk.nodes = .ofList entries)
    (distinct : (entries.map Prod.fst).Nodup) (listed : (place, node) ∈ entries) (below : place ≠ []) :
    disk.node? place = some node := by
  rw [node?, if_neg below, nodes, Table.get?_ofList_of_nodup listed distinct]

theorem mem_entries_of_file? {bytes : Bytes} (file : disk.file? place = some bytes) :
    (place, .file bytes) ∈ disk.nodes.entries := by
  have node := file?_eq_some.1 file
  by_cases top : place = []
  · rw [top, node?_nil] at node
    cases node
  · rw [node?, if_neg top] at node
    exact Table.mem_of_get? node

theorem file?_eq_none_of_entries {root : Place}
    (folders : ∀ entry ∈ disk.nodes.entries, root <+: entry.1 → entry.2 = .folder) (below : root <+: place) :
    disk.file? place = none := by
  rw [Option.eq_none_iff_forall_ne_some]
  intro bytes file
  cases folders _ (mem_entries_of_file? file) below

/-- Above everything on a sound disk is a folder. -/
theorem Sound.above (sound : disk.Sound) (below : List String) (present : disk.node? (place ++ below) ≠ none)
    (strict : below ≠ []) : disk.node? place = some .folder := by
  induction below using List.reverseRecOn with
  | nil => exact absurd rfl strict
  | append_singleton below name ih =>
    have parent := sound.parents _ present
    rw [← List.append_assoc, List.dropLast_concat] at parent
    by_cases last : below = []
    · rwa [last, List.append_nil] at parent
    · exact ih (by rw [parent]; exact Option.some_ne_none _) last

/-- A path that does not climb stays below the place it starts from. -/
theorem prefix_foldl_step (place : Place) (climbs : ".." ∉ names) : place <+: names.foldl step place := by
  induction names generalizing place with
  | nil => exact List.prefix_refl _
  | cons name names ih =>
    obtain ⟨here, later⟩ := not_or.1 (mt List.mem_cons.2 climbs)
    refine List.IsPrefix.trans ?_ (ih _ later)
    unfold step
    rw [if_neg (Ne.symm here)]
    split
    · exact List.prefix_refl _
    · exact List.prefix_append _ _

/-- Where a file was there all along, what leads to it was there as well. -/
theorem Walks.back (sound : disk.Sound) (climbs : ".." ∉ names)
    (file : disk.file? (names.foldl step place) = some bytes)
    (same : disk'.file? (names.foldl step place) = some bytes) (walks : disk'.Walks place names) :
    disk.Walks place names := by
  induction walks with
  | nil => exact .nil
  | @cons place name names folder _ ih =>
    refine .cons ?_ (ih (fun member => climbs (List.mem_cons_of_mem _ member)) file same)
    obtain ⟨below, whole⟩ := prefix_foldl_step place climbs
    refine sound.above below ?_ ?_
    · rw [whole, file?_eq_some.1 file]
      exact Option.some_ne_none _
    · rintro rfl
      rw [List.append_nil] at whole
      rw [← whole, file?_of_folder folder] at same
      cases same

/-- Whether a settled path leads to a file does not change as long as its place is not touched. -/
theorem Changes.read_iff (changes : Changes touched disk disk') (sound : disk.Sound) (settled : disk.Settled path)
    (untouched : ¬ touched (disk.placeOf path)) : disk'.read path = .ok bytes ↔ disk.read path = .ok bytes := by
  refine ⟨fun found => ?_, changes.read untouched⟩
  obtain ⟨reaches, same⟩ := read_eq_ok.1 found
  rw [changes.placeOf] at same
  have file := same
  rw [changes.files _ untouched] at file
  refine read_eq_ok.2 ⟨?_, file⟩
  by_cases climbs : ".." ∈ path.steps
  · exact settled climbs
  · have walks := reaches.2
    rw [changes.start] at walks
    exact ⟨reaches.1, walks.back sound climbs file same⟩

end Disk

end Faultline
