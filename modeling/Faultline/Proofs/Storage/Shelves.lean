import Faultline.Proofs.Storage.Recovery

namespace Faultline

variable {touched : Place → Prop} {store store' store₁ store₂ : SnapshotStore} {disk disk' disk₁ disk₂ : Disk}
  {files : ModuleFiles} {root path : Path} {place : Place} {name id : String} {bytes : Bytes}
  {symbols : Option Bytes} {entry : SnapshotEntry} {contents : Set Bytes}

/-! What is done to a disk beside a store. -/

/-- Anything may happen to a disk but to the files of a store and to what leads there. -/
structure Disk.Leaves (disk : Disk) (root : Path) (disk' : Disk) : Prop where
  workingFolder : disk'.workingFolder = disk.workingFolder
  files : ∀ place, disk.Stored root place → disk'.file? place = disk.file? place
  folder : disk.node? (disk.placeOf root ++ ["objects"]) = some .folder →
    disk'.node? (disk.placeOf root ++ ["objects"]) = some .folder
  reaches : disk.Reaches (SnapshotStore.indexPath root) → disk'.Reaches (SnapshotStore.indexPath root)

namespace Disk.Leaves

/-- Nothing that happens outside of the store makes a difference to it. -/
theorem of_changes (changes : Changes touched disk disk')
    (outside : ∀ place, touched place → ¬ disk.Stored root place) :
    disk.Leaves root disk' where
  workingFolder := changes.workingFolder
  files place stored := changes.files place fun held => outside place held stored
  folder := changes.folders _
  reaches := changes.reaches

theorem placeOf (leaves : disk.Leaves root disk') (path : Path) : disk'.placeOf path = disk.placeOf path := by
  rw [Disk.placeOf, Disk.placeOf, Disk.start, Disk.start, leaves.workingFolder]

theorem read (leaves : disk.Leaves root disk') (stored : disk.Stored root (disk.placeOf path))
    (reaches : disk.Reaches path → disk'.Reaches path) (found : disk.read path = .ok bytes) :
    disk'.read path = .ok bytes := by
  obtain ⟨reached, file⟩ := Disk.read_eq_ok.1 found
  refine Disk.read_eq_ok.2 ⟨reaches reached, ?_⟩
  rw [leaves.placeOf, leaves.files _ stored, file]

theorem onDisk (leaves : disk.Leaves store.root disk') (onDisk : store.OnDisk disk) : store.OnDisk disk' := by
  obtain ⟨text, found, parsed⟩ := onDisk
  refine ⟨text, leaves.read ?_ leaves.reaches found, parsed⟩
  rw [placeOf_indexPath]
  exact disk.stored_index store.root

theorem object (leaves : disk.Leaves store.root disk') (object : disk.Object store id bytes) :
    disk'.Object store id bytes := by
  refine ⟨leaves.read ?_ (fun reached => ?_) object.1, object.2⟩
  · rw [placeOf_objectPath disk store object.isName]
    exact disk.stored_object store.root id
  · obtain ⟨index, folder⟩ := (reaches_objectPath object.isName).1 reached
    refine (reaches_objectPath object.isName).2 ⟨leaves.reaches index, ?_⟩
    rw [leaves.placeOf]
    exact leaves.folder folder

end Disk.Leaves

namespace SnapshotStore

/-! Shelves of objects. -/

/-- Every file among the objects stands under its own name and can be read there. -/
def Shelved (store : SnapshotStore) (disk : Disk) (contents : Set Bytes) : Prop :=
  ∀ place bytes, disk.placeOf store.root ++ ["objects"] <+: place → disk.file? place = some bytes →
    bytes ∈ contents ∧ place = disk.placeOf store.root ++ ["objects", objectId bytes] ∧
    disk.Object store (objectId bytes) bytes

theorem Shelved.genuine (shelved : store.Shelved disk contents) (digests : Set.InjOn objectId contents) :
    store.Genuine disk contents := by
  intro bytes held found file
  obtain ⟨held', same, -⟩ := shelved _ found ⟨[objectId bytes], by rw [List.append_assoc]; rfl⟩ file
  exact digests held' held (by simpa using same.symm)

/-- Changes outside the folder of objects leave the shelves as they are. -/
theorem Shelved.changes (shelved : store.Shelved disk contents) (changes : Disk.Changes touched disk disk')
    (untouched : ∀ place, disk.placeOf store.root ++ ["objects"] <+: place → ¬ touched place) :
    store.Shelved disk' contents := by
  intro place bytes below file
  rw [changes.placeOf] at below
  rw [changes.files place (untouched place below)] at file
  obtain ⟨held, same, object⟩ := shelved place bytes below file
  rw [changes.placeOf]
  refine ⟨held, same, object.changes changes ?_⟩
  rw [← same]
  exact untouched place below

theorem Shelved.of_root (shelved : store.Shelved disk contents) (same : store'.root = store.root) :
    store'.Shelved disk contents := by
  intro place bytes below file
  rw [same] at below ⊢
  rw [Disk.object_of_root same]
  exact shelved place bytes below file

/-- Keeping a file shelves its bytes, which are among the contents. -/
theorem Keeps.shelved (keeps : store.Keeps disk path id store' disk') (shelved : store.Shelved disk contents)
    (held : ∀ bytes, disk.read path = .ok bytes → bytes ∈ contents) : store'.Shelved disk' contents := by
  have stays {id : String} {bytes : Bytes} : disk.Object store id bytes → disk'.Object store' id bytes := keeps.stays
  have changes := keeps.changes
  have root := keeps.same.1
  obtain ⟨content, found, rfl, ⟨-, rfl, rfl⟩ | ⟨-, put, -⟩⟩ := keeps
  · exact shelved
  intro place bytes below file
  rw [root, changes.placeOf] at below ⊢
  by_cases here : place = disk.placeOf store.root ++ ["objects", objectId content]
  · -- the new object
    have there := (Disk.read_eq_ok.1 put.read).2
    rw [changes.placeOf, placeOf_objectPath disk store (isName_objectId content), ← here, file] at there
    obtain rfl := Option.some.inj there
    exact ⟨held _ found, here, (Disk.object_of_root root).2 ⟨put.read, rfl⟩⟩
  · rw [changes.files place here] at file
    obtain ⟨held, same, object⟩ := shelved place bytes below file
    exact ⟨held, same, stays object⟩

theorem Records.shelved (records : store.Records disk name entry store' disk')
    (shelved : store.Shelved disk contents) :
    store'.Shelved disk' contents := by
  refine (shelved.changes records.changes ?_).of_root records.root
  rintro _ below rfl
  simp [List.prefix_append_right_inj] at below

/-- A backup puts the contents of the module's files with the others. -/
theorem Backs.shelved (backs : store.Backs disk name files entry store' disk')
    (shelved : store.Shelved disk contents)
    (outside : ∀ place, disk.Holds files place → ¬ disk.Stored store.root place)
    (pair : disk'.pair files = (some bytes, symbols)) (held : together bytes symbols ⊆ contents) :
    store'.Shelved disk' contents := by
  obtain ⟨store₁, disk₁, store₂, disk₂, first, binary, recorded, found, symbols⟩ := backs.keeps_pair outside
  refine recorded.shelved ?_
  obtain ⟨-, rfl, rfl, pair'⟩ | ⟨id, second, -, kept, found', pair'⟩ := symbols <;>
    obtain ⟨same, rfl⟩ := Prod.mk.inj (pair'.symm.trans pair) <;> obtain rfl := Option.some.inj same
  · exact binary.shelved shelved fun content read => held (Or.inl (Except.ok.inj (read.symm.trans found)))
  · have shelved₁ := binary.shelved shelved fun content read => held (Or.inl (Except.ok.inj (read.symm.trans found)))
    refine kept.shelved shelved₁ fun content read => held (Or.inr ?_)
    rw [Except.ok.inj (read.symm.trans found')]
    exact rfl

/-! What a backup writes. -/

/-- Where no object is on the shelf there is no file at all. -/
theorem Shelved.vacant (shelved : store.Shelved disk contents) (isName : Path.IsName id)
    (absent : disk.isFile (store.objectPath id) = false) :
    disk.file? (disk.placeOf (store.objectPath id)) = none := by
  rw [Option.eq_none_iff_forall_ne_some]
  intro bytes file
  rw [placeOf_objectPath disk store isName] at file
  obtain ⟨-, same, object⟩ := shelved _ bytes ⟨[id], by rw [List.append_assoc]; rfl⟩ file
  obtain rfl : id = objectId bytes := by simpa using same
  rw [Disk.isFile_iff.2 ⟨bytes, object.1⟩] at absent
  cases absent

theorem Keeps.same_of_isFile (keeps : store.Keeps disk path id store' disk')
    (present : disk.isFile (store.objectPath id) = true) :
    store = store' ∧ disk = disk' := by
  obtain ⟨-, -, -, ⟨-, same⟩ | ⟨absent, -⟩⟩ := keeps
  · exact same
  · rw [present] at absent
    cases absent

theorem keepEntries_eq_nil : store.keepEntries disk id disk' = [] ↔ disk.isFile (store.objectPath id) = true := by
  rw [keepEntries]
  split <;> simp_all

theorem recordEntries_eq_nil : store.recordEntries name entry disk' = [] ↔ store.entryOf? name = some entry := by
  rw [recordEntries]
  split <;> simp_all

/-- A backup without an entry changes nothing. -/
theorem BacksVia.same_of_nil (via : store.BacksVia disk name files entry store₁ disk₁ store₂ disk₂ store' disk')
    (nothing : store.backupEntries disk name entry store₁ disk₁ store₂ disk₂ disk' = []) :
    store = store' ∧ disk = disk' := by
  obtain ⟨binary, symbols, recorded⟩ := via
  obtain ⟨kept, last⟩ := List.append_eq_nil_iff.1 nothing
  obtain ⟨first, second⟩ := List.append_eq_nil_iff.1 kept
  obtain ⟨rfl, rfl⟩ := binary.same_of_isFile (keepEntries_eq_nil.1 first)
  obtain ⟨rfl, rfl⟩ : store = store₂ ∧ disk = disk₂ := by
    obtain ⟨-, -, same⟩ | ⟨id, some, -, kept⟩ := symbols
    · exact same
    · rw [some] at second
      exact kept.same_of_isFile (keepEntries_eq_nil.1 second)
  obtain ⟨-, same⟩ | ⟨other, -⟩ := recorded
  · exact same
  · exact absurd (recordEntries_eq_nil.1 last) other

/-- A backup makes no entry where all that it is to keep is recalled already. -/
theorem BacksVia.nil_of_recalls (recalls : store.Recalls disk name bytes symbols)
    (named : entry = ⟨objectId bytes, symbols.map objectId⟩)
    (via : store.BacksVia disk name files entry store₁ disk₁ store₂ disk₂ store' disk') :
    store.backupEntries disk name entry store₁ disk₁ store₂ disk₂ disk' = [] := by
  obtain ⟨binary, held, -⟩ := via
  have present : disk.isFile (store.objectPath entry.binary) = true := by
    rw [named]
    exact Disk.isFile_iff.2 ⟨bytes, recalls.binary.1⟩
  obtain ⟨rfl, rfl⟩ := binary.same_of_isFile present
  have present' : ∀ id ∈ entry.symbols, disk.isFile (store.objectPath id) = true := by
    rw [named]
    intro id member
    obtain ⟨bytes', held, rfl⟩ := Option.map_eq_some_iff.1 member
    exact Disk.isFile_iff.2 ⟨bytes', (recalls.symbols bytes' held).1⟩
  have recorded : store.entryOf? name = some entry := named ▸ recalls.recorded
  rw [backupEntries, keepEntries_eq_nil.2 present]
  obtain ⟨none, -, rfl, -⟩ | ⟨id, some, -, kept⟩ := held
  · rw [none, recordEntries_eq_nil.2 recorded]
    rfl
  · obtain ⟨rfl, -⟩ := kept.same_of_isFile (present' id some)
    rw [some, recordEntries_eq_nil.2 recorded, Option.elim_some, keepEntries_eq_nil.2 (present' id some)]
    rfl

/-- The writes a backup counts are those its journal has. -/
theorem BacksVia.writes_eq (via : store.BacksVia disk name files entry store₁ disk₁ store₂ disk₂ store' disk') :
    store'.writes = store.writes + (store.backupEntries disk name entry store₁ disk₁ store₂ disk₂ disk').length := by
  obtain ⟨binary, symbols, recorded⟩ := via
  rw [backupEntries, List.length_append, List.length_append, recorded.writes_eq, ← Nat.add_assoc,
    ← Nat.add_assoc, ← binary.writes_eq]
  obtain ⟨none, -, rfl, -⟩ | ⟨id, some, -, kept⟩ := symbols
  · rw [none]
    rfl
  · rw [some, kept.writes_eq]
    rfl

theorem BacksVia.roots (via : store.BacksVia disk name files entry store₁ disk₁ store₂ disk₂ store' disk') :
    store₁.root = store.root ∧ store₂.root = store.root := by
  obtain ⟨binary, ⟨-, -, rfl, -⟩ | ⟨id, -, -, kept⟩, -⟩ := via
  · exact ⟨binary.same.1, binary.same.1⟩
  · exact ⟨binary.same.1, kept.same.1.trans binary.same.1⟩

theorem path_of_mem_keepEntries {made : Path × Disk} (same : store'.root = store.root)
    (member : made ∈ store'.keepEntries disk id disk') :
    made.1 = store.objectPath id ∧ disk.isFile (store.objectPath id) = false := by
  obtain ⟨absent, rfl⟩ := mem_keepEntries.1 member
  rw [objectPath, same, ← objectPath] at absent ⊢
  exact ⟨rfl, absent⟩

theorem path_of_mem_recordEntries {made : Path × Disk} (same : store'.root = store.root)
    (member : made ∈ store'.recordEntries name entry disk') : made.1 = indexPath store.root := by
  rw [(mem_recordEntries.1 member).2, same]

/-- A backup writes the index, and objects where there is no file. -/
theorem BacksVia.entries_new (via : store.BacksVia disk name files entry store₁ disk₁ store₂ disk₂ store' disk')
    (shelved : store.Shelved disk contents) :
    ∀ made ∈ store.backupEntries disk name entry store₁ disk₁ store₂ disk₂ disk', made.1 = indexPath store.root ∨
      ∃ id, (id = entry.binary ∨ entry.symbols = some id) ∧ made.1 = store.objectPath id ∧
      disk.file? (disk.placeOf made.1) = none := by
  obtain ⟨root₁, root₂⟩ := via.roots
  obtain ⟨binary, symbols, -⟩ := via
  intro made member
  obtain here | ⟨id, held, here⟩ | here := mem_backupEntries.1 member
  · obtain ⟨path, absent⟩ := path_of_mem_keepEntries rfl here
    rw [path]
    exact Or.inr ⟨entry.binary, Or.inl rfl, rfl, shelved.vacant binary.isName absent⟩
  · obtain ⟨path, absent⟩ := path_of_mem_keepEntries root₁ here
    obtain ⟨none, -⟩ | ⟨id', some, -, kept⟩ := symbols
    · rw [none] at held
      cases held
    obtain rfl := Option.some.inj (some.symm.trans held)
    rw [path]
    refine Or.inr ⟨id', Or.inr some, rfl, shelved.vacant kept.isName (Bool.eq_false_iff.2 fun present => ?_)⟩
    rw [binary.isFile present] at absent
    cases absent
  · exact Or.inl (path_of_mem_recordEntries root₂ here)

theorem objectPath_ne_indexPath (isName : Path.IsName id) : store.objectPath id ≠ indexPath store.root := by
  intro same
  have folder : Path.IsName "objects" := ⟨by decide, by decide, by decide⟩
  have index : Path.IsName "index.json" := ⟨by decide, by decide, by decide⟩
  have lengths := congrArg (·.names.length) same
  simp [objectPath, indexPath, Path.names_join _ isName, Path.names_join _ folder, Path.names_join _ index] at lengths

theorem nodup_keepEntries : ((store.keepEntries disk id disk').map Prod.fst).Nodup := by
  rw [keepEntries]
  split <;> simp

theorem nodup_recordEntries : ((store.recordEntries name entry disk').map Prod.fst).Nodup := by
  rw [recordEntries]
  split <;> simp

/-- A backup writes no file twice. -/
theorem BacksVia.nodup_entries (via : store.BacksVia disk name files entry store₁ disk₁ store₂ disk₂ store' disk') :
    ((store.backupEntries disk name entry store₁ disk₁ store₂ disk₂ disk').map Prod.fst).Nodup := by
  obtain ⟨root₁, root₂⟩ := via.roots
  obtain ⟨binary, symbols, -⟩ := via
  have indexed : ∀ path ∈ (store.keepEntries disk entry.binary disk₁).map Prod.fst,
      ∀ path' ∈ (store₂.recordEntries name entry disk').map Prod.fst, path ≠ path' := by
    simp only [List.forall_mem_map]
    intro made member made' member'
    rw [(path_of_mem_keepEntries rfl member).1, path_of_mem_recordEntries root₂ member']
    exact objectPath_ne_indexPath binary.isName
  rw [backupEntries]
  obtain ⟨none, -⟩ | ⟨id, some, -, kept⟩ := symbols
  · rw [none, Option.elim_none, List.append_nil, List.map_append, List.nodup_append]
    exact ⟨nodup_keepEntries, nodup_recordEntries, indexed⟩
  · rw [some, Option.elim_some, List.append_assoc, List.map_append, List.map_append, List.nodup_append,
      List.nodup_append]
    refine ⟨nodup_keepEntries, ⟨nodup_keepEntries, nodup_recordEntries, ?_⟩, fun path member path' member' => ?_⟩
    · simp only [List.forall_mem_map]
      intro made member made' member'
      rw [(path_of_mem_keepEntries root₁ member).1, path_of_mem_recordEntries root₂ member']
      exact objectPath_ne_indexPath kept.isName
    · obtain member' | member' := List.mem_append.1 member'
      · obtain ⟨made, here, rfl⟩ := List.mem_map.1 member
        obtain ⟨made', there, rfl⟩ := List.mem_map.1 member'
        -- the object for the binary is there when that for the symbols is looked for
        obtain ⟨found, read⟩ := binary.found
        rw [objectPath, root₁, ← objectPath] at read
        obtain ⟨path', absent⟩ := path_of_mem_keepEntries root₁ there
        rw [(path_of_mem_keepEntries rfl here).1, path']
        rintro same
        rw [← same, Disk.isFile_iff.2 ⟨found, read⟩] at absent
        cases absent
      · exact indexed path member path' member'

end SnapshotStore

end Faultline
