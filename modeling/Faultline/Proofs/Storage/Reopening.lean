import Faultline.Proofs.Storage.Backups
import Faultline.Proofs.Storage.Journal

namespace Faultline

variable {touched : Place → Prop} {store store₁ store₂ store' : SnapshotStore}
  {start disk disk₁ disk₂ disk' : Disk} {root path : Path} {place : Place} {name id : String}
  {bytes bytes' : Bytes} {files : ModuleFiles} {entry : SnapshotEntry}

/-! Opening a store before its index is written. -/

/-- As long as it is not written, an index that was not there is not found, even when what leads to it has
been made. -/
theorem Disk.Changes.read_index (changes : Disk.Changes touched disk disk') (sound : disk.Sound)
    (settled : disk.Settled root) (untouched : ¬ touched (disk.placeOf root ++ ["index.json"]))
    (absent : disk.read (SnapshotStore.indexPath root) = .error .notFound)
    (reaches : disk'.Reaches (SnapshotStore.indexPath root))
    (free : disk'.node? (disk'.placeOf (SnapshotStore.indexPath root)) ≠ some .folder) :
    disk'.read (SnapshotStore.indexPath root) = .error .notFound := by
  refine Disk.read_eq_notFound reaches (Option.eq_none_iff_forall_ne_some.2 fun node there => ?_)
  cases node with
  | folder => exact free there
  | file bytes =>
    have found : disk'.read (SnapshotStore.indexPath root) = .ok bytes :=
      Disk.read_eq_ok.2 ⟨reaches, Disk.file?_eq_some.2 there⟩
    -- the file was there all along, so that its path was settled
    have file : disk.file? (disk.placeOf root ++ ["index.json"]) = some bytes := by
      rw [← changes.files _ untouched, ← placeOf_indexPath, ← changes.placeOf]
      exact Disk.file?_eq_some.2 there
    have folder : disk.node? (disk.placeOf root) = some .folder := by
      refine sound.above ["index.json"] ?_ (List.cons_ne_nil _ _)
      rw [Disk.file?_eq_some.1 file]
      exact Option.some_ne_none _
    have isName : Path.IsName "index.json" := ⟨by decide, by decide, by decide⟩
    have settled' : disk.Settled (SnapshotStore.indexPath root) := fun climbs => by
      refine (Disk.reaches_join root isName).2 ⟨(settled ?_).2.names, folder⟩
      rw [SnapshotStore.indexPath, Path.steps_join root isName] at climbs
      rw [Path.steps_eq]
      exact List.mem_append_left _ ((List.mem_append.1 climbs).resolve_right (by decide))
    rw [← placeOf_indexPath] at untouched
    rw [(changes.read_iff sound settled' untouched).1 found] at absent
    cases absent

namespace SnapshotStore

/-! A store is nothing but its index, whatever it has written. -/

theorem Keeps.recount (keeps : store.Keeps disk path id store' disk') (count : Nat) :
    ∃ count', { store with writes := count }.Keeps disk path id { store' with writes := count' } disk' := by
  obtain ⟨bytes, found, named, ⟨present, rfl, rfl⟩ | ⟨absent, put, rfl⟩⟩ := keeps
  · exact ⟨count, bytes, found, named, Or.inl ⟨present, rfl, rfl⟩⟩
  · exact ⟨count + 1, bytes, found, named, Or.inr ⟨absent, put, rfl⟩⟩

theorem Records.recount (records : store.Records disk name entry store' disk') (count : Nat) :
    ∃ count', { store with writes := count }.Records disk name entry { store' with writes := count' } disk' := by
  obtain ⟨recorded, rfl, rfl⟩ | ⟨other, put, rfl⟩ := records
  · exact ⟨count, Or.inl ⟨recorded, rfl, rfl⟩⟩
  · exact ⟨count + 1, Or.inr ⟨other, put, rfl⟩⟩

/-- What a backup does does not depend on the writes counted before. -/
theorem Backs.recount (backs : store.Backs disk name files entry store' disk') (count : Nat) :
    ∃ count', { store with writes := count }.Backs disk name files entry { store' with writes := count' } disk' := by
  obtain ⟨store₁, disk₁, store₂, disk₂, binary, symbols, recorded⟩ := backs
  obtain ⟨count₁, binary⟩ := binary.recount count
  obtain ⟨none, absent, rfl, rfl⟩ | ⟨id, some, present, kept⟩ := symbols
  · obtain ⟨count', recorded⟩ := recorded.recount count₁
    exact ⟨count', _, disk₁, _, disk₁, binary, Or.inl ⟨none, absent, rfl, rfl⟩, recorded⟩
  · obtain ⟨count₂, kept⟩ := kept.recount count₁
    obtain ⟨count', recorded⟩ := recorded.recount count₂
    exact ⟨count', _, disk₁, _, disk₂, binary, Or.inr ⟨id, some, present, kept⟩, recorded⟩

/-- What a restore does does not depend on the writes counted before. -/
theorem does_restore_recount (does : Does (store.restore name files) store disk () store' disk') (count : Nat) :
    Does ({ store with writes := count }.restore name files) { store with writes := count } disk ()
      { store with writes := count } disk' := by
  change Does (store.restore name files) _ disk () _ disk'
  unfold restore at does
  split at does
  · exact absurd does does_throw
  rename_i entry recorded
  obtain ⟨id, symbols⟩ := entry
  obtain ⟨bytes, _, _, reading, does⟩ := does_bind.1 does
  obtain ⟨object, rfl, rfl⟩ := does_object.1 reading
  obtain ⟨⟨⟩, _, between, writing, does⟩ := does_bind.1 does
  obtain ⟨first, rfl⟩ := does_writeFile.1 (does_adapt.1 writing)
  rw [restore, recorded]
  refine does_bind.2 ⟨bytes, _, _, does_object.2 ⟨object, rfl, rfl⟩, ?_⟩
  refine does_bind.2 ⟨⟨⟩, _, between, does_adapt.2 (does_writeFile.2 ⟨first, rfl⟩), ?_⟩
  cases symbols with
  | some id' =>
    obtain ⟨bytes', _, _, reading', does⟩ := does_bind.1 does
    obtain ⟨object', rfl, rfl⟩ := does_object.1 reading'
    obtain ⟨second, rfl⟩ := does_writeFile.1 (does_adapt.1 does)
    refine does_bind.2 ⟨bytes', _, _, does_object.2 ⟨object', rfl, rfl⟩, ?_⟩
    exact does_adapt.2 (does_writeFile.2 ⟨second, rfl⟩)
  | none =>
    obtain ⟨outcome, _, _, removing, does⟩ := does_bind.1 does
    obtain ⟨same, rfl, gone⟩ := does_removeFile_iff.1 removing
    refine does_bind.2 ⟨outcome, _, _, does_removeFile_iff.2 ⟨same, rfl, gone⟩, ?_⟩
    split at does
    · obtain ⟨-, -, rfl⟩ := does_pure.1 does
      exact does_pure.2 ⟨rfl, rfl, rfl⟩
    · obtain ⟨-, -, rfl⟩ := does_pure.1 does
      exact does_pure.2 ⟨rfl, rfl, rfl⟩
    · exact absurd does does_throw

/-! Backing up once more. -/

/-- The contents of a file are among the objects. -/
def Kept (store : SnapshotStore) (disk : Disk) (path : Path) (id : String) : Prop :=
  ∃ bytes, disk.read path = .ok bytes ∧ objectId bytes = id ∧ disk.isFile (store.objectPath id) = true

theorem Kept.keeps (kept : store.Kept disk path id) : store.Keeps disk path id store disk := by
  obtain ⟨bytes, found, named, present⟩ := kept
  exact ⟨bytes, found, named, Or.inl ⟨present, rfl, rfl⟩⟩

theorem Keeps.isFile (keeps : store.Keeps disk path id store' disk') {other : Path}
    (present : disk.isFile other = true) :
    disk'.isFile other = true := by
  obtain ⟨_, -, -, ⟨-, -, rfl⟩ | ⟨-, put, -⟩⟩ := keeps
  · exact present
  · exact put.isFile present

theorem Records.isFile (records : store.Records disk name entry store' disk') {other : Path}
    (present : disk.isFile other = true) :
    disk'.isFile other = true := by
  obtain ⟨-, -, rfl⟩ | ⟨-, put, -⟩ := records
  · exact present
  · exact put.isFile present

/-- What was kept stays kept while files are only added, all of them to the store. -/
theorem Kept.later (kept : store.Kept disk path id) (same : store'.root = store.root)
    (changes : Disk.Changes touched disk disk') (untouched : ¬ touched (disk.placeOf path))
    (stays : ∀ other, disk.isFile other = true → disk'.isFile other = true) :
    store'.Kept disk' path id := by
  obtain ⟨bytes, found, named, present⟩ := kept
  refine ⟨bytes, changes.read untouched found, named, ?_⟩
  rw [objectPath, same]
  exact stays _ present

/-- After a file was kept its object is there, with the same bytes. -/
theorem Keeps.kept (keeps : store.Keeps disk path id store' disk')
    (outside : ¬ disk.Stored store.root (disk.placeOf path)) :
    store'.Kept disk' path id := by
  have untouched : disk.placeOf path ≠ disk.placeOf store.root ++ ["objects", id] := fun same =>
    outside (same ▸ disk.stored_object store.root id)
  have changes := keeps.changes
  obtain ⟨bytes, found, named, kept⟩ := keeps
  refine ⟨bytes, changes.read untouched found, named, ?_⟩
  obtain ⟨present, rfl, rfl⟩ | ⟨-, put, rfl⟩ := kept
  · exact present
  · exact Disk.isFile_iff.2 ⟨bytes, put.read⟩

/-- At any moment of a backup it can be made anew, which ends as it did. -/
theorem BacksVia.again (via : store.BacksVia disk name files entry store₁ disk₁ store₂ disk₂ store' disk')
    (present : disk.isFile files.symbols = true)
    (outside : ∀ place, disk.Holds files place → ¬ disk.Stored store.root place) :
    store₁.Backs disk₁ name files entry store' disk' ∧ store₂.Backs disk₂ name files entry store' disk' ∧
      store'.Backs disk' name files entry store' disk' := by
  obtain ⟨binary, ⟨-, absent, -, -⟩ | ⟨id, some, present₁, symbols⟩, recorded⟩ := via
  · rw [binary.isFile present] at absent
    cases absent
  -- the files themselves are never written, and an object that is there is not written again
  have outside₁ : ∀ place, disk₁.Holds files place → ¬ disk₁.Stored store₁.root place := by
    rw [binary.changes.holds, binary.changes.stored, binary.same.1]
    exact outside
  have outside₂ : ∀ place, disk₂.Holds files place → ¬ disk₂.Stored store₂.root place := by
    rw [symbols.changes.holds, symbols.changes.stored, symbols.same.1]
    exact outside₁
  have kept₁ := binary.kept (outside _ (Or.inl rfl))
  have kept₂ : store₂.Kept disk₂ files.binary entry.binary := by
    refine kept₁.later symbols.same.1 symbols.changes (fun same => outside₁ _ (Or.inl rfl) ?_) fun _ => symbols.isFile
    exact same ▸ disk₁.stored_object store₁.root id
  have kept₂' := symbols.kept (outside₁ _ (Or.inr rfl))
  have later (path : Path) (held : disk₂.Holds files (disk₂.placeOf path)) (id : String)
      (kept : store₂.Kept disk₂ path id) : store'.Kept disk' path id := by
    refine kept.later recorded.root recorded.changes (fun same => outside₂ _ held ?_) fun _ => recorded.isFile
    exact same ▸ disk₂.stored_index store₂.root
  refine ⟨⟨_, _, _, _, kept₁.keeps, Or.inr ⟨id, some, present₁, symbols⟩, recorded⟩, ?_, ?_⟩
  · exact ⟨_, _, _, _, kept₂.keeps, Or.inr ⟨id, some, symbols.isFile present₁, kept₂'.keeps⟩, recorded⟩
  · refine ⟨_, _, _, _, (later _ (Or.inl rfl) _ kept₂).keeps,
      Or.inr ⟨id, some, ?_, (later _ (Or.inr rfl) _ kept₂').keeps⟩, ?_⟩
    · exact recorded.isFile (symbols.isFile present₁)
    · exact Or.inl ⟨recorded.entered, rfl, rfl⟩

/-! Opening a store in the midst of a backup. -/

/-- An object is written where the index can be looked for. -/
theorem Keeps.same_or_reaches (keeps : store.Keeps disk path id store' disk') :
    (store' = store ∧ disk' = disk) ∨ disk'.Reaches (indexPath store.root) := by
  obtain ⟨bytes, found, rfl, ⟨-, rfl, rfl⟩ | ⟨-, put, rfl⟩⟩ := keeps
  · exact Or.inl ⟨rfl, rfl⟩
  · exact Or.inr ((reaches_objectPath (isName_objectId bytes)).1 put.reaches).1

/-- There was no index at the start, and none has been written since. -/
structure Unwritten (store : SnapshotStore) (start disk : Disk) : Prop where
  changes : Disk.Changes (· ≠ start.placeOf store.root ++ ["index.json"]) start disk
  before : start.read (indexPath store.root) = .error .notFound
  absent : disk.read (indexPath store.root) = .error .notFound
  empty : store.index = .empty

theorem Unwritten.synced (unwritten : store.Unwritten start disk) : store.Synced disk :=
  synced_iff.2 (Or.inr ⟨unwritten.absent, unwritten.empty⟩)

/-- Keeping a file does not touch an index that is unwritten so far. -/
theorem Keeps.unwritten (keeps : store.Keeps disk path id store' disk')
    (unwritten : store.Unwritten start disk) (sound : start.Sound) (settled : start.Settled store.root)
    (free : disk'.node? (disk'.placeOf (indexPath store.root)) ≠ some .folder) :
    store'.Unwritten start disk' := by
  obtain ⟨rfl, rfl⟩ | reaches := keeps.same_or_reaches
  · exact unwritten
  · have changes : Disk.Changes (· ≠ start.placeOf store.root ++ ["index.json"]) start disk' := by
      refine unwritten.changes.trans (keeps.changes.mono fun place held => ?_)
      rw [held, unwritten.changes.placeOf]
      simp
    obtain ⟨root, index⟩ := keeps.same
    refine ⟨by rwa [root], by rw [root, unwritten.before], ?_, by rw [index, unwritten.empty]⟩
    rw [root]
    exact changes.read_index sound settled (not_not_intro rfl) unwritten.before reaches free

/-- The index is on the disk, or there is none, and none is found either when the folder for it is made. -/
def Reopenable (store : SnapshotStore) (disk : Disk) : Prop :=
  store.OnDisk disk ∨ store.Synced disk ∧ disk.Sound ∧ disk.Settled store.root

theorem Reopenable.synced (reopenable : store.Reopenable disk) : store.Synced disk := by
  rcases reopenable with onDisk | ⟨synced, -⟩
  · exact synced_iff.2 (Or.inl onDisk)
  · exact synced

/-- A store that is opened in the midst of a backup is the one that makes it. -/
theorem BacksVia.synced (via : store.BacksVia disk name files entry store₁ disk₁ store₂ disk₂ store' disk')
    (reopenable : store.Reopenable disk) : store₁.Synced disk₁ ∧ store₂.Synced disk₂ ∧ store'.Synced disk' := by
  have backs : store.Backs disk name files entry store' disk' := ⟨store₁, disk₁, store₂, disk₂, via⟩
  suffices early : store₁.Synced disk₁ ∧ store₂.Synced disk₂ from
    ⟨early.1, early.2, synced_iff.2 (Or.inl (backs.onDisk reopenable.synced))⟩
  obtain ⟨binary, symbols, recorded⟩ := via
  have second : (store₂ = store₁ ∧ disk₂ = disk₁) ∨ ∃ id, store₁.Keeps disk₁ files.symbols id store₂ disk₂ := by
    obtain ⟨-, -, rfl, rfl⟩ | ⟨id, -, -, kept⟩ := symbols
    · exact Or.inl ⟨rfl, rfl⟩
    · exact Or.inr ⟨id, kept⟩
  by_cases onDisk : store.OnDisk disk
  · have onDisk₁ := binary.onDisk onDisk
    refine ⟨synced_iff.2 (Or.inl onDisk₁), synced_iff.2 (Or.inl ?_)⟩
    obtain ⟨rfl, rfl⟩ | ⟨id, kept⟩ := second
    · exact onDisk₁
    · exact kept.onDisk onDisk₁
  · obtain ⟨synced, sound, settled⟩ := reopenable.resolve_left onDisk
    obtain ⟨absent, empty⟩ := (synced_iff.1 synced).resolve_left onDisk
    have start : store.Unwritten disk disk := ⟨.refl _, absent, absent, empty⟩
    have root₁ := binary.same.1
    -- the index is written in the end, so that no folder is in its place before
    have free₂ : disk₂.node? (disk₂.placeOf (indexPath store₂.root)) ≠ some .folder := by
      obtain ⟨known, -, -⟩ | ⟨-, put, -⟩ := recorded
      · have empty₂ : store₂.index = .empty := by
          obtain ⟨rfl, -⟩ | ⟨id, kept⟩ := second
          · rw [binary.same.2, empty]
          · rw [kept.same.2, binary.same.2, empty]
        rw [entryOf?, empty₂] at known
        cases known
      · exact put.not_folder
    obtain ⟨rfl, rfl⟩ | ⟨id, kept⟩ := second
    · rw [root₁] at free₂
      have unwritten := binary.unwritten start sound settled free₂
      exact ⟨unwritten.synced, unwritten.synced⟩
    · rw [kept.same.1] at free₂
      have free₁ : disk₁.node? (disk₁.placeOf (indexPath store.root)) ≠ some .folder := fun folder => by
        rw [kept.changes.placeOf, root₁] at free₂
        exact free₂ (kept.changes.folders _ folder)
      have unwritten := binary.unwritten start sound settled free₁
      exact ⟨unwritten.synced, (kept.unwritten unwritten sound (root₁ ▸ settled) free₂).synced⟩

/-- At any moment of a backup the store can be opened and the backup made anew, which ends as it did. -/
theorem BacksVia.reopens {between : Disk}
    (via : store.BacksVia disk name files entry store₁ disk₁ store₂ disk₂ store' disk')
    (reopenable : store.Reopenable disk) (present : disk.isFile files.symbols = true)
    (outside : ∀ place, disk.Holds files place → ¬ disk.Stored store.root place)
    (moment : between = disk₁ ∨ between = disk₂ ∨ between = disk') : ∃ again :
    SnapshotStore, again.root = store.root ∧
      again.Synced between ∧ Disk.Changes (disk.Stored store.root) disk between ∧
      again.Backs between name files entry store' disk' := by
  obtain ⟨synced₁, synced₂, synced'⟩ := via.synced reopenable
  obtain ⟨again₁, again₂, again'⟩ := via.again present outside
  have changes' : Disk.Changes (disk.Stored store.root) disk disk' :=
    Backs.changes_stored ⟨store₁, disk₁, store₂, disk₂, via⟩
  obtain ⟨binary, symbols, -⟩ := via
  have changes₁ : Disk.Changes (disk.Stored store.root) disk disk₁ :=
    binary.changes.mono fun place held => held ▸ disk.stored_object store.root entry.binary
  obtain rfl | rfl | rfl := moment
  · exact ⟨store₁, binary.same.1, synced₁, changes₁, again₁⟩
  · refine ⟨store₂, again₂.root.symm.trans (again₁.root.trans binary.same.1), synced₂, ?_, again₂⟩
    obtain ⟨-, -, -, rfl⟩ | ⟨id, -, -, kept⟩ := symbols
    · exact changes₁
    · refine changes₁.trans (kept.changes.mono fun place held => ?_)
      rw [← binary.same.1, ← changes₁.stored]
      exact held ▸ disk₁.stored_object store₁.root id
  · exact ⟨store', again₁.root.trans binary.same.1, synced', changes', again'⟩

end SnapshotStore

end Faultline
