import Mathlib.Data.Set.Function
import Faultline.Proofs.Storage.Folders

namespace Faultline

variable {touched : Place → Prop} {store store' : SnapshotStore} {disk disk' : Disk} {files : ModuleFiles}
  {path : Path} {name name' id id' : String} {bytes bytes' : Bytes} {entry : SnapshotEntry}
  {contents : Set Bytes}

namespace Disk

theorem object_of_root (same : store'.root = store.root) :
    disk.Object store' id bytes ↔ disk.Object store id bytes := by
  rw [Object, Object, SnapshotStore.objectPath, SnapshotStore.objectPath, same]

theorem Object.isName (object : disk.Object store id bytes) : Path.IsName id := object.2 ▸ isName_objectId bytes

theorem Object.changes (object : disk.Object store id bytes) (changes : Changes touched disk disk')
    (untouched : ¬ touched (disk.placeOf store.root ++ ["objects", id])) : disk'.Object store id bytes := by
  rw [← placeOf_objectPath disk store object.isName] at untouched
  exact ⟨changes.read untouched object.1, object.2⟩

end Disk

namespace SnapshotStore

/-- No object that is named for one of these contents holds another. -/
def Genuine (store : SnapshotStore) (disk : Disk) (contents : Set Bytes) : Prop :=
  ∀ bytes ∈ contents, ∀ found,
    disk.file? (disk.placeOf store.root ++ ["objects", objectId bytes]) = some found → found = bytes

theorem Genuine.changes (genuine : store.Genuine disk contents) (same : store'.root = store.root)
    (changes : Disk.Changes touched disk disk')
    (untouched : ∀ bytes ∈ contents, ¬ touched (disk.placeOf store.root ++ ["objects", objectId bytes])) :
    store'.Genuine disk' contents := by
  intro bytes held found file
  rw [same, changes.placeOf, changes.files _ (untouched bytes held)] at file
  exact genuine bytes held found file

/-! Keeping files. -/

/-- An object that is there stays as it is, whatever it holds. -/
theorem Keeps.reads (keeps : store.Keeps disk path id' store' disk') (isName : Path.IsName id)
    (found : disk.read (store.objectPath id) = .ok bytes) : disk'.read (store'.objectPath id) = .ok bytes := by
  have changes := keeps.changes
  rw [objectPath, keeps.same.1, ← objectPath]
  obtain ⟨content, -, -, ⟨-, -, rfl⟩ | ⟨absent, -, -⟩⟩ := keeps
  · exact found
  · refine changes.read (fun same => ?_) found
    rw [placeOf_objectPath disk store isName] at same
    rw [show id' = id by simpa using same.symm, Disk.isFile_iff.2 ⟨bytes, found⟩] at absent
    cases absent

theorem Keeps.stays (keeps : store.Keeps disk path id' store' disk') (object : disk.Object store id bytes) :
    disk'.Object store' id bytes := ⟨keeps.reads object.isName object.1, object.2⟩

theorem Keeps.named (keeps : store.Keeps disk path id store' disk') (found : disk.read path = .ok bytes) :
    id = objectId bytes := by
  obtain ⟨content, read, rfl, -⟩ := keeps
  rw [Except.ok.inj (read.symm.trans found)]

/-- What is kept of a file is an object with its contents. -/
theorem Keeps.object (keeps : store.Keeps disk path id store' disk') (genuine : store.Genuine disk contents)
    (held : bytes ∈ contents) (found : disk.read path = .ok bytes) :
    id = objectId bytes ∧ disk'.Object store' id bytes := by
  rw [Disk.object_of_root keeps.same.1]
  obtain ⟨content, read, rfl, kept⟩ := keeps
  obtain rfl := Except.ok.inj (read.symm.trans found)
  refine ⟨rfl, ?_, rfl⟩
  obtain ⟨present, rfl, rfl⟩ | ⟨-, put, -⟩ := kept
  · obtain ⟨there, present⟩ := Disk.isFile_iff.1 present
    have file := (Disk.read_eq_ok.1 present).2
    rw [placeOf_objectPath disk store (isName_objectId content)] at file
    rw [genuine _ held there file] at present
    exact present
  · exact put.read

/-- Keeping a file adds an object that is named by its digest. -/
theorem Keeps.genuine (keeps : store.Keeps disk path id store' disk') (genuine : store.Genuine disk contents)
    (held : bytes ∈ contents) (found : disk.read path = .ok bytes) (digests : Set.InjOn objectId contents) :
    store'.Genuine disk' contents := by
  obtain ⟨rfl, object⟩ := keeps.object genuine held found
  intro bytes' held' found' file
  by_cases same : objectId bytes' = objectId bytes
  · obtain rfl := digests held' held same
    have there := (Disk.read_eq_ok.1 object.1).2
    rw [placeOf_objectPath disk' store' (isName_objectId _), file] at there
    exact Option.some.inj there
  · rw [keeps.same.1, keeps.changes.placeOf, keeps.changes.files _ (by simpa using same)] at file
    exact genuine bytes' held' found' file

/-! Recording backups. -/

theorem Records.entered (records : store.Records disk name entry store' disk') :
    store'.entryOf? name = some entry := by
  obtain ⟨recorded, rfl, -⟩ | ⟨-, -, rfl⟩ := records
  · exact recorded
  · exact Table.get?_insert_self ..

theorem Records.other (records : store.Records disk name entry store' disk') (other : name' ≠ name) :
    store'.entryOf? name' = store.entryOf? name' := by
  obtain ⟨-, rfl, -⟩ | ⟨-, -, rfl⟩ := records
  · rfl
  · rw [entryOf?, entryOf?, Table.get?_insert, if_neg other]

theorem Records.reads (records : store.Records disk name entry store' disk') (isName : Path.IsName id)
    (found : disk.read (store.objectPath id) = .ok bytes) : disk'.read (store'.objectPath id) = .ok bytes := by
  rw [objectPath, records.root, ← objectPath]
  refine records.changes.read (fun same => ?_) found
  rw [placeOf_objectPath disk store isName] at same
  simp at same

theorem Records.stays (records : store.Records disk name entry store' disk') (object : disk.Object store id bytes) :
    disk'.Object store' id bytes := ⟨records.reads object.isName object.1, object.2⟩

/-! What a backup leaves as it is. -/

theorem Keeps.readable (keeps : store.Keeps disk path id store' disk') : ∃ bytes, disk.read path = .ok bytes := by
  obtain ⟨bytes, found, -, -⟩ := keeps
  exact ⟨bytes, found⟩

/-- A file that is kept is among the objects afterwards. -/
theorem Keeps.found (keeps : store.Keeps disk path id store' disk') :
    ∃ found, disk'.read (store'.objectPath id) = .ok found := by
  rw [objectPath, keeps.same.1, ← objectPath]
  obtain ⟨content, -, rfl, ⟨present, rfl, rfl⟩ | ⟨-, put, -⟩⟩ := keeps
  · exact Disk.isFile_iff.1 present
  · exact ⟨content, put.read⟩

theorem Keeps.isName (keeps : store.Keeps disk path id store' disk') : Path.IsName id := by
  obtain ⟨content, -, rfl, -⟩ := keeps
  exact isName_objectId content

theorem Records.contents_eq {other : Path} (records : store.Records disk name entry store' disk')
    (reaches : disk.Reaches (indexPath store.root)) (outside : ¬ disk.Stored store.root (disk.placeOf other)) :
    disk'.contents other = disk.contents other := by
  obtain ⟨-, -, rfl⟩ | ⟨-, put, -⟩ := records
  · rfl
  · refine put.contents_eq reaches fun same => outside ?_
    rw [same, placeOf_indexPath]
    exact disk.stored_index store.root

/-! Backups. -/

theorem Backs.reads (backs : store.Backs disk name files entry store' disk') (isName : Path.IsName id)
    (found : disk.read (store.objectPath id) = .ok bytes) : disk'.read (store'.objectPath id) = .ok bytes := by
  obtain ⟨store₁, disk₁, store₂, disk₂, binary, symbols, recorded⟩ := backs
  refine recorded.reads isName ?_
  obtain ⟨-, -, rfl, rfl⟩ | ⟨id, -, -, kept⟩ := symbols
  · exact binary.reads isName found
  · exact kept.reads isName (binary.reads isName found)

theorem Backs.stays (backs : store.Backs disk name files entry store' disk') (object : disk.Object store id bytes) :
    disk'.Object store' id bytes := ⟨backs.reads object.isName object.1, object.2⟩

theorem Backs.entered (backs : store.Backs disk name files entry store' disk') :
    store'.entryOf? name = some entry := by
  obtain ⟨store₁, disk₁, store₂, disk₂, -, -, recorded⟩ := backs
  exact recorded.entered

theorem Backs.other (backs : store.Backs disk name files entry store' disk') (other : name' ≠ name) :
    store'.entryOf? name' = store.entryOf? name' := by
  obtain ⟨store₁, disk₁, store₂, disk₂, binary, symbols, recorded⟩ := backs
  rw [recorded.other other, entryOf?, entryOf?, ← binary.same.2]
  obtain ⟨-, -, rfl, -⟩ | ⟨id, -, -, kept⟩ := symbols
  · rfl
  · rw [kept.same.2]

/-- The backup of a module is recorded, and the objects hold what was in its files. -/
structure Recalls (store : SnapshotStore) (disk : Disk) (name : String) (bytes : Bytes)
    (symbols : Option Bytes) : Prop where
  recorded : store.entryOf? name = some ⟨objectId bytes, symbols.map objectId⟩
  binary : disk.Object store (objectId bytes) bytes
  symbols : ∀ bytes' ∈ symbols, disk.Object store (objectId bytes') bytes'

/-- What a backup keeps is what the files hold afterwards. -/
theorem Backs.keeps_pair (backs : store.Backs disk name files entry store' disk')
    (outside : ∀ place, disk.Holds files place → ¬ disk.Stored store.root place) :
    ∃ store₁ disk₁ store₂ disk₂ bytes, store.Keeps disk files.binary entry.binary store₁ disk₁ ∧
      store₂.Records disk₂ name entry store' disk' ∧ disk.read files.binary = .ok bytes ∧
      ((entry.symbols = none ∧ store₁ = store₂ ∧ disk₁ = disk₂ ∧ disk'.pair files = (some bytes, none)) ∨
        ∃ id bytes', entry.symbols = some id ∧ store₁.Keeps disk₁ files.symbols id store₂ disk₂ ∧
          disk₁.read files.symbols = .ok bytes' ∧ disk'.pair files = (some bytes, some bytes')) := by
  have changes := backs.changes_stored
  obtain ⟨store₁, disk₁, store₂, disk₂, binary, symbols, recorded⟩ := backs
  obtain ⟨bytes, found⟩ := binary.readable
  refine ⟨store₁, disk₁, store₂, disk₂, bytes, binary, recorded, found, ?_⟩
  have later := Disk.contents_eq_some.2 (changes.read (outside _ (Or.inl rfl)) found)
  have outside₁ : ¬ disk₁.Stored store₁.root (disk₁.placeOf files.symbols) := by
    rw [binary.changes.stored, binary.changes.placeOf, binary.same.1]
    exact outside _ (Or.inr rfl)
  obtain ⟨none, absent, rfl, rfl⟩ | ⟨id, some, -, kept⟩ := symbols
  · refine Or.inl ⟨none, rfl, rfl, ?_⟩
    obtain ⟨_, there⟩ := binary.found
    have reaches := ((reaches_objectPath binary.isName).1 (Disk.read_eq_ok.1 there).1).1
    rw [Disk.pair, later, recorded.contents_eq reaches outside₁, Disk.contents_eq_none.2 absent]
  · obtain ⟨bytes', found'⟩ := kept.readable
    refine Or.inr ⟨id, bytes', some, kept, found', ?_⟩
    have later' : disk'.read files.symbols = .ok bytes' := by
      refine recorded.changes.read (fun same => outside₁ ?_) (kept.changes.read (fun same => outside₁ ?_) found')
      · rw [kept.changes.placeOf, kept.changes.placeOf, kept.same.1] at same
        exact same ▸ disk₁.stored_index store₁.root
      · exact same ▸ disk₁.stored_object store₁.root id
    rw [Disk.pair, later, Disk.contents_eq_some.2 later']

/-- The objects that a backup names are those for the contents of the module's files. -/
theorem Backs.entry_eq (backs : store.Backs disk name files entry store' disk')
    (outside : ∀ place, disk.Holds files place → ¬ disk.Stored store.root place) :
    ∃ bytes symbols, disk'.pair files = (some bytes, symbols) ∧ entry = ⟨objectId bytes, symbols.map objectId⟩ := by
  obtain ⟨store₁, disk₁, store₂, disk₂, bytes, binary, -, found, symbols⟩ := backs.keeps_pair outside
  obtain ⟨none, -, -, pair⟩ | ⟨id, bytes', some, kept, found', pair⟩ := symbols
  · refine ⟨bytes, _, pair, ?_⟩
    rw [← binary.named found, Option.map_none, ← none]
  · refine ⟨bytes, _, pair, ?_⟩
    rw [← binary.named found, Option.map_some, ← kept.named found', ← some]

/-- A module's files are recalled after its backup, if no other contents pass for theirs. -/
theorem Backs.recalls {symbols : Option Bytes} (backs : store.Backs disk name files entry store' disk')
    (genuine : store.Genuine disk contents) (digests : Set.InjOn objectId contents)
    (pair : disk'.pair files = (some bytes, symbols)) (held : bytes ∈ contents)
    (held' : ∀ bytes' ∈ symbols, bytes' ∈ contents)
    (outside : ∀ place, disk.Holds files place → ¬ disk.Stored store.root place) :
    store'.Recalls disk' name bytes symbols ∧ store'.Genuine disk' contents := by
  have entered := backs.entered
  obtain ⟨now, symbols', pair', rfl⟩ := backs.entry_eq outside
  obtain ⟨same, rfl⟩ := Prod.mk.inj (pair'.symm.trans pair)
  obtain rfl := Option.some.inj same
  obtain ⟨store₁, disk₁, store₂, disk₂, there, binary, recorded, found, kept⟩ := backs.keeps_pair outside
  have here : there = now := by
    obtain ⟨-, -, -, again⟩ | ⟨_, _, -, -, -, again⟩ := kept <;>
      exact Option.some.inj (Prod.mk.inj (again.symm.trans pair)).1
  subst here
  have object := (binary.object genuine held found).2
  have genuine₁ := binary.genuine genuine held found digests
  obtain ⟨-, rfl, rfl, again⟩ | ⟨id, bytes', -, kept, found', again⟩ := kept
  · obtain rfl := (Prod.mk.inj (again.symm.trans pair)).2
    refine ⟨⟨entered, recorded.stays object, fun bytes' impossible => by cases impossible⟩, ?_⟩
    exact genuine₁.changes recorded.root recorded.changes (by simp)
  · obtain rfl := (Prod.mk.inj (again.symm.trans pair)).2
    have held' := held' bytes' rfl
    obtain ⟨rfl, object'⟩ := kept.object genuine₁ held' found'
    have genuine₂ := kept.genuine genuine₁ held' found' digests
    refine ⟨⟨entered, recorded.stays (kept.stays object), ?_⟩,
      genuine₂.changes recorded.root recorded.changes (by simp)⟩
    intro other listed
    obtain rfl := Option.some.inj listed
    exact recorded.stays object'

/-- The backup of a module is recorded, and the objects with the contents of its files are there. -/
structure Secures (store : SnapshotStore) (disk : Disk) (name : String) (bytes bytes' : Bytes) : Prop where
  recorded : store.entryOf? name = some ⟨objectId bytes, some (objectId bytes')⟩
  binary : disk.Object store (objectId bytes) bytes
  symbols : disk.Object store (objectId bytes') bytes'

/-- A module's files are secured by its backup. -/
theorem Backs.secures (backs : store.Backs disk name files entry store' disk') (genuine : store.Genuine disk contents)
    (digests : Set.InjOn objectId contents) (contains : disk.Contains files bytes bytes') (held : bytes ∈ contents)
    (held' : bytes' ∈ contents) (outside : ∀ place, disk.Holds files place → ¬ disk.Stored store.root place) :
    store'.Secures disk' name bytes bytes' ∧ store'.Genuine disk' contents := by
  have contains' : disk'.Contains files bytes bytes' := contains.spared (backs.changes_stored.spares outside)
  obtain ⟨recalls, genuine'⟩ := backs.recalls genuine digests (Disk.pair_eq_some.2 contains') held
    (fun _ same => Option.some.inj same ▸ held') outside
  exact ⟨⟨recalls.recorded, recalls.binary, recalls.symbols _ rfl⟩, genuine'⟩

/-- A backup that is not recorded yet is written down in the index. -/
theorem Backs.indexed (backs : store.Backs disk name files entry store' disk')
    (new : store.entryOf? name ≠ some entry) :
    disk'.read (indexPath store.root) = .ok (textBytes store'.index.text) := by
  have root := backs.root
  obtain ⟨store₁, disk₁, store₂, disk₂, binary, symbols, recorded⟩ := backs
  have same : store₂.index = store.index := by
    obtain ⟨-, -, rfl, -⟩ | ⟨id, -, -, kept⟩ := symbols
    · exact binary.same.2
    · exact kept.same.2.trans binary.same.2
  obtain ⟨old, -, -⟩ | ⟨-, put, rfl⟩ := recorded
  · rw [entryOf?, same] at old
    exact absurd old new
  · rw [← root]
    exact put.read

/-- Another module's backup leaves a module secured. -/
theorem Backs.keeps (backs : store.Backs disk name files entry store' disk')
    (secures : store.Secures disk name' bytes bytes') (other : name' ≠ name) :
    store'.Secures disk' name' bytes bytes' :=
  ⟨(backs.other other).trans secures.recorded, backs.stays secures.binary, backs.stays secures.symbols⟩

/-- Where there are objects with the contents of the files, to back these up is to record them. -/
theorem Records.backs (records : store.Records disk name ⟨objectId bytes, some (objectId bytes')⟩ store' disk')
    (contains : disk.Contains files bytes bytes') (binary : disk.Object store (objectId bytes) bytes)
    (symbols : disk.Object store (objectId bytes') bytes') :
    store.Backs disk name files ⟨objectId bytes, some (objectId bytes')⟩ store' disk' := by
  have kept {path : Path} {bytes : Bytes} (found : disk.read path = .ok bytes)
      (object : disk.Object store (objectId bytes) bytes) :
      store.Keeps disk path (objectId bytes) store disk :=
    ⟨bytes, found, rfl, Or.inl ⟨Disk.isFile_iff.2 ⟨_, object.1⟩, rfl, rfl⟩⟩
  refine ⟨store, disk, store, disk, kept contains.binary binary,
    Or.inr ⟨_, rfl, ?_, kept contains.symbols symbols⟩, records⟩
  exact Disk.isFile_iff.2 ⟨_, contains.symbols⟩

namespace Secures

theorem changes (secures : store.Secures disk name bytes bytes') (changes : Disk.Changes touched disk disk')
    (outside : ∀ place, disk.Stored store.root place → ¬ touched place) : store.Secures disk' name bytes bytes' :=
  ⟨secures.recorded, secures.binary.changes changes (outside _ (disk.stored_object _ _)),
    secures.symbols.changes changes (outside _ (disk.stored_object _ _))⟩

/-- Where the files are secured as they are, backing them up changes nothing. -/
theorem backs (secures : store.Secures disk name bytes bytes') (contains : disk.Contains files bytes bytes') :
    store.Backs disk name files ⟨objectId bytes, some (objectId bytes')⟩ store disk :=
  Records.backs (Or.inl ⟨secures.recorded, rfl, rfl⟩) contains secures.binary secures.symbols

/-- Files that are secured can be brought back where they were. -/
theorem restores {now now' : Bytes} (secures : store.Secures disk name bytes bytes')
    (contains : disk.Contains files now now') (own : disk.placeOf files.binary ≠ disk.placeOf files.symbols)
    (outside : ∀ place, disk.Holds files place → ¬ disk.Stored store.root place) :
    ∃ disk', Does (store.restore name files) store disk () store disk' ∧ disk'.Contains files bytes bytes' := by
  obtain ⟨between, first⟩ := Disk.Writes.of_ready contains.prepared.1 contains.binary bytes
  have symbols := first.changes.read own.symm contains.symbols
  have object : between.Object store (objectId bytes') bytes' := by
    refine secures.symbols.changes first.changes fun same => outside _ (Or.inl rfl) ?_
    rw [← same]
    exact disk.stored_object _ _
  obtain ⟨disk', second⟩ := Disk.Writes.of_ready (Disk.ready_of_read symbols) symbols bytes'
  refine ⟨disk', does_restore_both secures.recorded secures.binary first object second,
    second.changes.read ?_ first.read, second.read⟩
  rw [first.changes.placeOf, first.changes.placeOf]
  exact own

end Secures

end SnapshotStore

end Faultline
