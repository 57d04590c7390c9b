import Faultline.Proofs.Storage.SnapshotStore

namespace Faultline

namespace Disk

/-- Two disks with the same folders, and with files at the same places, whose contents may differ at the
touched ones. -/
structure Alike (touched : Place → Prop) (disk disk' : Disk) : Prop where
  workingFolder : disk'.workingFolder = disk.workingFolder
  folders : ∀ place, disk'.node? place = some .folder ↔ disk.node? place = some .folder
  vacant : ∀ place, disk'.node? place = none ↔ disk.node? place = none
  contents : ∀ place, ¬ touched place → disk'.file? place = disk.file? place

namespace Alike

variable {touched touched' : Place → Prop} {disk disk' next : Disk} {path : Path} {place : Place}
  {names : List String} {bytes bytes' : Bytes}

theorem refl (disk : Disk) : Alike touched disk disk := ⟨rfl, fun _ => Iff.rfl, fun _ => Iff.rfl, fun _ _ => rfl⟩

theorem mono (alike : Alike touched disk disk') (more : ∀ place, touched place → touched' place) :
    Alike touched' disk disk' :=
  ⟨alike.workingFolder, alike.folders, alike.vacant, fun place untouched =>
    alike.contents place (mt (more place) untouched)⟩

theorem start (alike : Alike touched disk disk') (path : Path) : disk'.start path = disk.start path := by
  rw [Disk.start, Disk.start, alike.workingFolder]

theorem placeOf (alike : Alike touched disk disk') (path : Path) : disk'.placeOf path = disk.placeOf path := by
  rw [Disk.placeOf, Disk.placeOf, alike.start]

theorem reaches (alike : Alike touched disk disk') : disk'.Reaches path ↔ disk.Reaches path := by
  unfold Reaches
  rw [alike.start]
  exact and_congr_right fun _ =>
    ⟨Walks.mono fun place => (alike.folders place).1, Walks.mono fun place => (alike.folders place).2⟩

theorem exists_file (alike : Alike touched disk disk') (place : Place) :
    (∃ bytes, disk'.file? place = some bytes) ↔ ∃ bytes, disk.file? place = some bytes := by
  have file (d : Disk) : (∃ bytes, d.file? place = some bytes) ↔ d.node? place ≠ some .folder ∧
      d.node? place ≠ none := by
    simp only [file?_eq_some]
    cases d.node? place with
    | none => simp
    | some node => cases node <;> simp
  rw [file, file, Ne, Ne, alike.folders, alike.vacant]

theorem isFile (alike : Alike touched disk disk') (path : Path) : disk'.isFile path = disk.isFile path := by
  rw [Bool.eq_iff_iff, isFile_iff, isFile_iff]
  simp only [read_eq_ok, exists_and_left]
  rw [alike.reaches, alike.placeOf, alike.exists_file]

theorem read (alike : Alike touched disk disk') (untouched : ¬ touched (disk.placeOf path)) :
    disk'.read path = .ok bytes ↔ disk.read path = .ok bytes := by
  rw [read_eq_ok, read_eq_ok, alike.reaches, alike.placeOf, alike.contents _ untouched]

/-- The same write on two alike disks keeps them alike. -/
theorem put {node node' : Node} (alike : Alike touched disk disk') (below : place ≠ [])
    (folder : node' = .folder ↔ node = .folder) (same : node' = node ∨ touched place) :
    Alike touched (disk.put place node) (disk'.put place node') := by
  refine ⟨alike.workingFolder, fun other => ?_, fun other => ?_, fun other untouched => ?_⟩
  · rw [node?_put below, node?_put below]
    by_cases here : other = place
    · rw [if_pos here, if_pos here, Option.some.injEq, Option.some.injEq, folder]
    · rw [if_neg here, if_neg here, alike.folders]
  · rw [node?_put below, node?_put below]
    by_cases here : other = place
    · rw [if_pos here, if_pos here]
      exact iff_of_false (Option.some_ne_none _) (Option.some_ne_none _)
    · rw [if_neg here, if_neg here, alike.vacant]
  · have contents := alike.contents other untouched
    unfold file? at contents ⊢
    rw [node?_put below, node?_put below]
    by_cases here : other = place
    · rw [if_pos here, if_pos here, same.resolve_right (here ▸ untouched)]
    · rwa [if_neg here, if_neg here]

/-! What is done to the one disk can be done to the other. -/

/-- Folders are made on alike disks alike. -/
theorem makeFolders (alike : Alike touched disk disk') (made : disk.makeFolders place names = (.ok (), next)) :
    ∃ next', disk'.makeFolders place names = (.ok (), next') ∧ Alike touched next next' := by
  induction names generalizing disk disk' place with
  | nil =>
    cases made
    exact ⟨disk', rfl, alike⟩
  | cons name names ih =>
    unfold Disk.makeFolders at made ⊢
    dsimp only at made ⊢
    cases there : disk.node? (step place name) with
    | none =>
      rw [(alike.vacant _).2 there]
      rw [there] at made
      exact ih (alike.put (ne_nil_of_vacant there) Iff.rfl (Or.inl rfl)) made
    | some node =>
      rw [there] at made
      cases node with
      | folder =>
        rw [(alike.folders _).2 there]
        exact ih alike made
      | file bytes => cases made

/-- A write that succeeds on a disk succeeds on an alike one. -/
theorem writes (alike : Alike touched disk disk') (writes : disk.Writes path bytes next)
    (same : bytes' = bytes ∨ touched (disk.placeOf path)) :
    ∃ next', disk'.Writes path bytes' next' ∧ Alike touched next next' := by
  obtain ⟨between, made, put⟩ := writes
  have folders : Changes (fun _ => False) disk between := (createFolders_eq_ok made).1
  rw [createFolders] at made
  obtain ⟨between', made', alike'⟩ := alike.makeFolders made
  obtain ⟨reaches, outside, rfl⟩ := write_eq_ok.1 put
  have below : between.placeOf path ≠ [] := fun top => outside (top ▸ node?_nil)
  rw [← folders.placeOf] at same
  have alike₁ : Alike touched (between.put _ (.file bytes)) (between'.put _ (.file bytes')) :=
    alike'.put below (by simp) (same.imp_left (congrArg Node.file))
  refine ⟨_, ⟨between', ?_, ?_⟩, alike₁⟩
  · rw [createFolders, alike.start]
    exact made'
  · rw [← alike'.placeOf]
    refine write_eq_ok.2 ⟨alike'.reaches.2 reaches, ?_, rfl⟩
    rwa [alike'.placeOf, Ne, alike'.folders]

theorem stores {files : ModuleFiles} {module : Module} (alike : Alike touched disk disk')
    (stores : disk.Stores files module next) (module' : Module) (symbols : module'.symbols = module.symbols) :
    ∃ next', disk'.Stores files module' next' ∧
    Alike (fun place => touched place ∨ place = disk.placeOf files.binary) next next' := by
  obtain ⟨between, first, second⟩ := stores
  have wider : Alike (fun place => touched place ∨ place = disk.placeOf files.binary) disk disk' :=
    alike.mono fun _ => Or.inl
  obtain ⟨between', first', alike₁⟩ := wider.writes first (Or.inr (Or.inr rfl))
  obtain ⟨next', second', alike₂⟩ := alike₁.writes second (Or.inl rfl)
  exact ⟨next', ⟨between', first', symbols ▸ second'⟩, alike₂⟩

end Alike

end Disk

namespace SnapshotStore

variable {touched : Place → Prop} {store store' : SnapshotStore} {disk disk' next : Disk} {path : Path}
  {name id : String} {entry : SnapshotEntry} {files : ModuleFiles}

theorem Keeps.alike (keeps : store.Keeps disk path id store' next) (alike : Disk.Alike touched disk disk')
    (untouched : ¬ touched (disk.placeOf path)) :
    ∃ next', store.Keeps disk' path id store' next' ∧ Disk.Alike touched next next' := by
  obtain ⟨bytes, found, same, ⟨present, rfl, rfl⟩ | ⟨absent, put, counted⟩⟩ := keeps
  · exact ⟨disk',
      ⟨bytes, (alike.read untouched).2 found, same, Or.inl ⟨(alike.isFile _).trans present, rfl, rfl⟩⟩, alike⟩
  · obtain ⟨next', put', alike'⟩ := alike.writes put (Or.inl rfl)
    exact ⟨next',
      ⟨bytes, (alike.read untouched).2 found, same, Or.inr ⟨(alike.isFile _).trans absent, put', counted⟩⟩, alike'⟩

theorem Records.alike (records : store.Records disk name entry store' next) (alike : Disk.Alike touched disk disk') :
    ∃ next', store.Records disk' name entry store' next' ∧ Disk.Alike touched next next' := by
  obtain ⟨same, rfl, rfl⟩ | ⟨other, put, counted⟩ := records
  · exact ⟨disk', Or.inl ⟨same, rfl, rfl⟩, alike⟩
  · obtain ⟨next', put', alike'⟩ := alike.writes put (Or.inl rfl)
    exact ⟨next', Or.inr ⟨other, put', counted⟩, alike'⟩

/-- A backup that succeeds on a disk succeeds on one that is alike where the target is. -/
theorem Backs.alike (backs : store.Backs disk name files entry store' next) (alike : Disk.Alike touched disk disk')
    (untouched : ∀ place, disk.Holds files place → ¬ touched place) :
    ∃ next', store.Backs disk' name files entry store' next' ∧ Disk.Alike touched next next' := by
  obtain ⟨store₁, disk₁, store₂, disk₂, binary, symbols, recorded⟩ := backs
  obtain ⟨disk₁', binary', alike₁⟩ := binary.alike alike (untouched _ (Or.inl rfl))
  obtain ⟨none, absent, rfl, rfl⟩ | ⟨id, some, present, kept⟩ := symbols
  · obtain ⟨next', recorded', alike'⟩ := recorded.alike alike₁
    exact ⟨next',
      ⟨store₁, disk₁', store₁, disk₁', binary', Or.inl ⟨none, (alike₁.isFile _).trans absent, rfl, rfl⟩,
        recorded'⟩, alike'⟩
  · have elsewhere : ¬ touched (disk₁.placeOf files.symbols) := by
      rw [binary.changes.placeOf]
      exact untouched _ (Or.inr rfl)
    obtain ⟨disk₂', kept', alike₂⟩ := kept.alike alike₁ elsewhere
    obtain ⟨next', recorded', alike'⟩ := recorded.alike alike₂
    exact ⟨next',
      ⟨store₁, disk₁', store₂, disk₂', binary', Or.inr ⟨id, some, (alike₁.isFile _).trans present, kept'⟩, recorded'⟩,
      alike'⟩

end SnapshotStore

end Faultline
