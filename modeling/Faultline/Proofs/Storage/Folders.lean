import Faultline.Proofs.Storage.SnapshotStore

namespace Faultline

namespace Disk

variable {disk disk' : Disk} {path : Path} {place : Place} {name : String} {bytes : Bytes}

/-! What leads to a file in a folder. -/

/-- A path can be walked when all of it but the last name can, and leads to a folder. -/
theorem walks_concat {names : List String} {last : String} :
    disk.Walks place (names ++ [last]) ↔ disk.Walks place names ∧
    disk.node? (names.foldl step place) = some .folder := by
  induction names generalizing place with
  | nil =>
    refine ⟨fun walks => ?_, fun ⟨_, folder⟩ => .cons folder .nil⟩
    cases walks with
    | cons folder _ => exact ⟨.nil, folder⟩
  | cons first rest ih =>
    refine ⟨fun walks => ?_, fun ⟨walks, folder⟩ => ?_⟩
    · cases walks with
      | cons here onward => exact ⟨.cons here (ih.1 onward).1, (ih.1 onward).2⟩
    · cases walks with
      | cons here onward => exact .cons here (ih.2 ⟨onward, folder⟩)

theorem Walks.names (walks : disk.Walks place path.steps) : disk.Walks place path.names := by
  rw [Path.steps_eq] at walks
  split at walks
  · exact (walks_concat.1 walks).1
  · rwa [List.append_nil] at walks

/-- A name that paths start with leads to its place at the top. -/
theorem walks_name (top : disk.workingFolder = []) (isName : Path.IsName name) :
    disk.placeOf ⟨name⟩ = [name] ∧ disk.Walks (disk.start ⟨name⟩) (Path.names ⟨name⟩) := by
  have start : disk.start ⟨name⟩ = [] := by rw [Disk.start, top, ite_self]
  rw [placeOf, foldl_step_names, start, Path.names_name isName]
  refine ⟨?_, .cons node?_nil .nil⟩
  rw [List.foldl_cons, List.foldl_nil, step, if_neg isName.leads.1, if_neg isName.leads.2, List.nil_append]

/-- A name below a path is reached when the path leads to a folder. -/
theorem reaches_join (base : Path) (isName : Path.IsName name) : disk.Reaches (base.join ⟨name⟩) ↔
    disk.Walks (disk.start base) base.names ∧ disk.node? (disk.placeOf base) = some .folder := by
  have start : disk.start (base.join ⟨name⟩) = disk.start base := by
    rw [Disk.start, Path.isAbsolute_join base isName, ← Disk.start]
  have named : (base.join ⟨name⟩).text ≠ "" := by
    intro empty
    have names := Path.names_join base isName
    rw [Path.names, Path.parts, empty] at names
    exact List.append_ne_nil_of_right_ne_nil _ (List.cons_ne_nil _ _) names.symm
  rw [Reaches, start, Path.steps_join base isName, walks_concat, ← foldl_step_names]
  exact and_iff_right named

theorem read_join {base : Path} (placed : disk.placeOf base = place) (isName : Path.IsName name)
    (walks : disk.Walks (disk.start base) base.names) (folder : disk.node? place = some .folder)
    (file : disk.node? (place ++ [name]) = some (.file bytes)) : disk.read (base.join ⟨name⟩) = .ok bytes := by
  rw [← placed] at folder file
  refine read_eq_ok.2 ⟨(reaches_join base isName).2 ⟨walks, folder⟩, ?_⟩
  rw [placeOf_join disk base isName]
  exact file?_eq_some.2 file

/-- An object is read from its place in the folder of objects. -/
theorem read_object {store : SnapshotStore} (placed : disk.placeOf store.root = place) (isName : Path.IsName name)
    (walks : disk.Walks (disk.start store.root) store.root.names) (folder : disk.node? place = some .folder)
    (objects : disk.node? (place ++ ["objects"]) = some .folder)
    (file : disk.node? (place ++ ["objects", name]) = some (.file bytes)) :
    disk.read (store.objectPath name) = .ok bytes := by
  have within : Path.IsName "objects" := ⟨by decide, by decide, by decide⟩
  have reaches := (reaches_join store.root within).2 ⟨walks, placed ▸ folder⟩
  refine read_join ?_ isName reaches.2.names objects ?_
  · rw [placeOf_join disk store.root within, placed]
  · rw [List.append_assoc]
    exact file

theorem Writes.not_folder (writes : disk.Writes path bytes disk') :
    disk.node? (disk.placeOf path) ≠ some .folder := by
  obtain ⟨between, made, written⟩ := writes
  have folders : Changes (fun _ => False) disk between := (createFolders_eq_ok made).1
  intro folder
  refine (write_eq_ok.1 written).2.1 ?_
  rw [folders.placeOf]
  exact folders.folders _ folder

theorem Writes.reaches (writes : disk.Writes path bytes disk') : disk'.Reaches path := (read_eq_ok.1 writes.read).1

/-- Whatever is written, no file goes. -/
theorem Writes.isFile {other : Path} (writes : disk.Writes path bytes disk') (present : disk.isFile other = true) :
    disk'.isFile other = true := by
  obtain ⟨held, found⟩ := isFile_iff.1 present
  by_cases same : disk.placeOf other = disk.placeOf path
  · refine isFile_iff.2 ⟨bytes, read_eq_ok.2 ⟨writes.changes.reaches (read_eq_ok.1 found).1, ?_⟩⟩
    rw [writes.changes.placeOf, same, ← writes.changes.placeOf]
    exact (read_eq_ok.1 writes.read).2
  · exact isFile_iff.2 ⟨held, writes.changes.read same found⟩

theorem read_eq_notFound (reaches : disk.Reaches path) (vacant : disk.node? (disk.placeOf path) = none) :
    disk.read path = .error .notFound := by
  unfold Disk.read
  simp only [locate_eq_ok.2 ⟨reaches, rfl⟩, Except.bind, bind, vacant]

theorem Walks.from_folder {names : List String} (walks : disk.Walks place names)
    (folder : disk.node? (names.foldl step place) = some .folder) :
    disk.node? place = some .folder := by
  cases walks with
  | nil => exact folder
  | cons here _ => exact here

theorem Walks.paved {names : List String} (walks : disk.Walks place names)
    (folder : disk.node? (names.foldl step place) = some .folder) :
    disk.Paved place names := by
  induction walks with
  | nil => exact .nil
  | cons _ later ih => exact .cons (later.from_folder folder) (ih folder)

/-- A paved path is paved up to each of its names. -/
theorem Paved.of_begins {names names' : List String} (paved : disk.Paved place names)
    (begins : names' <+: names) : disk.Paved place names' := by
  induction paved generalizing names' with
  | nil =>
    rw [List.prefix_nil.1 begins]
    exact .nil
  | cons here _ ih =>
    cases names' with
    | nil => exact .nil
    | cons name rest =>
      obtain ⟨rfl, later⟩ := List.cons_prefix_cons.1 begins
      exact .cons here (ih later)

/-- What a path leads to, unless it is a folder, has its folder. -/
theorem Reaches.ready (reaches : disk.Reaches path)
    (other : disk.node? (disk.placeOf path) ≠ some .folder) : disk.Ready path := by
  obtain ⟨front, last, split⟩ : ∃ front last, path.parts = front ++ [last] :=
    (List.eq_nil_or_concat' path.parts).resolve_left path.parts_ne_nil
  obtain ⟨named, walks⟩ := reaches
  have proper : last ≠ "" ∧ last ≠ "." := by
    refine ⟨?_, ?_⟩
    · rintro rfl
      have closed := (Path.getLast?_parts.1 (by rw [split, List.getLast?_concat])).resolve_left named
      have steps : path.steps = path.names ++ ["."] := by rw [Path.steps_eq, closed, if_pos rfl]
      rw [steps, walks_concat] at walks
      rw [placeOf, foldl_step_names] at other
      exact other walks.2
    · rintro rfl
      have steps := Path.steps_of_parts split (by decide)
      rw [steps, walks_concat] at walks
      rw [placeOf, steps, List.foldl_append, List.foldl_cons, List.foldl_nil, step, if_pos rfl] at other
      exact other walks.2
  rw [Path.steps_of_parts split proper.1, walks_concat] at walks
  obtain ⟨absolute, here | begins⟩ := Path.folder_spec split proper <;> refine ⟨?_⟩ <;> rw [start, absolute, ← start]
  · rw [here]
    refine .cons ?_ .nil
    rw [step, if_pos rfl]
    exact walks.1.from_folder walks.2
  · exact (walks.1.paved walks.2).of_begins begins

theorem ready_of_read (found : disk.read path = .ok bytes) : disk.Ready path := by
  obtain ⟨reaches, file⟩ := read_eq_ok.1 found
  refine reaches.ready fun folder => ?_
  rw [file?_eq_some.1 file] at folder
  cases folder

/-- Files that are there can be written anew. -/
theorem Contains.prepared {files : ModuleFiles} {bytes bytes' : Bytes} (contains : disk.Contains files bytes bytes') :
    disk.Prepared files :=
  ⟨ready_of_read contains.binary, ready_of_read contains.symbols⟩

/-- Where a path leads through folders already, writing a file changes nothing else. -/
theorem Writes.eq_put (writes : disk.Writes path bytes disk') (reaches : disk.Reaches path) :
    disk' = disk.put (disk.placeOf path) (.file bytes) := by
  have ready := reaches.ready writes.not_folder
  obtain ⟨between, made, written⟩ := writes
  rw [createFolders_of_paved ready.paved] at made
  cases made
  exact (write_eq_ok.1 written).2.2

/-- Another path then leads to what it led to before. -/
theorem Writes.contents_eq {other : Path} (writes : disk.Writes path bytes disk') (reaches : disk.Reaches path)
    (elsewhere : disk.placeOf other ≠ disk.placeOf path) : disk'.contents other = disk.contents other := by
  have changes := writes.changes
  have outside := writes.not_folder
  have put := writes.eq_put reaches
  refine Option.ext fun found => ?_
  rw [contents_eq_some, contents_eq_some]
  refine ⟨fun after => ?_, changes.read elsewhere⟩
  obtain ⟨⟨named, walks⟩, file⟩ := read_eq_ok.1 after
  rw [changes.placeOf, changes.files _ elsewhere] at file
  refine read_eq_ok.2 ⟨⟨named, ?_⟩, file⟩
  rw [changes.start] at walks
  refine walks.mono fun place folder => ?_
  have below : disk.placeOf path ≠ [] := fun top => outside (top ▸ node?_nil)
  rw [put, node?_put below] at folder
  split at folder
  · cases folder
  · exact folder

end Disk

/-! What leads to the files of a store. -/

/-- An object is reached exactly when the store and its folder of objects are there. -/
theorem reaches_objectPath {disk : Disk} {store : SnapshotStore} {id : String} (isName : Path.IsName id) :
    disk.Reaches (store.objectPath id) ↔ disk.Reaches (SnapshotStore.indexPath store.root) ∧
      disk.node? (disk.placeOf store.root ++ ["objects"]) = some .folder := by
  have folder : Path.IsName "objects" := ⟨by decide, by decide, by decide⟩
  have index : Path.IsName "index.json" := ⟨by decide, by decide, by decide⟩
  have start : disk.start (store.root.join ⟨"objects"⟩) = disk.start store.root := by
    rw [Disk.start, Path.isAbsolute_join store.root folder, ← Disk.start]
  rw [SnapshotStore.objectPath, Disk.reaches_join _ isName, SnapshotStore.indexPath, Disk.reaches_join _ index, start,
    Path.names_join store.root folder, Disk.walks_concat, Disk.placeOf_join disk store.root folder,
    Disk.placeOf, Disk.foldl_step_names]

end Faultline
