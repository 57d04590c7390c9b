import Faultline.Proofs.Storage.ModuleFiles

namespace Faultline

variable {store store' : SnapshotStore} {disk disk' : Disk} {files : ModuleFiles} {path : Path} {name id : String}
  {bytes : Bytes} {entry : SnapshotEntry}

/-! The index as it is written. -/

theorem SnapshotEntry.ofJson?_toJson (entry : SnapshotEntry) : SnapshotEntry.ofJson? entry.toJson = some entry := by
  obtain ⟨binary, symbols⟩ := entry
  cases symbols <;> rfl

theorem SnapshotIndex.ofJson?_toJson (index : SnapshotIndex) : SnapshotIndex.ofJson? index.toJson = some index := by
  have entries : (index.entries.map fun entry => (entry.1, entry.2.toJson)).mapM
      (fun member => (SnapshotEntry.ofJson? member.2).bind fun entry => some (member.1, entry)) =
      some index.entries :=
    mapM_map_eq_some index.entries fun entry _ => by rw [SnapshotEntry.ofJson?_toJson, Option.bind_some]
  simp only [ofJson?, toJson, Json.required?, Json.fields?, namedFields?, List.map_cons, List.map_nil, List.mapM_cons,
    List.mapM_nil, List.filter_cons, List.filter_nil, decide_true, if_true, Option.bind_eq_bind, Option.pure_def,
    Option.bind_some, id_eq, entries, Table.ofList_entries]

/-- The index holds no numbers, so writing and parsing loses nothing. -/
theorem SnapshotIndex.integral_toJson (index : SnapshotIndex) : index.toJson.Integral := by
  refine .object fun member listed => ?_
  obtain rfl := List.mem_singleton.1 listed
  refine .object fun member listed => ?_
  obtain ⟨⟨name, binary, symbols⟩, -, rfl⟩ := List.mem_map.1 listed
  refine .object fun field listed => ?_
  fin_cases listed
  · exact .string _
  · cases symbols with
    | none => exact .null
    | some id => exact .string _

theorem SnapshotIndex.ofText?_text (index : SnapshotIndex) : SnapshotIndex.ofText? index.text = some index := by
  rw [ofText?, text, Json.parse?_render index.integral_toJson, Option.bind_some, ofJson?_toJson]

/-- An index is no text of symbols. -/
theorem Symbols.ofText?_index (index : SnapshotIndex) : Symbols.ofText? index.text = none := by
  rw [ofText?, SnapshotIndex.text, Json.parse?_render index.integral_toJson, Option.bind_some]
  simp [ofJson?, SnapshotIndex.toJson, Json.fields?, namedFields?]

/-! Where the store keeps its files. -/

theorem Disk.foldl_step_names (path : Path) (place : Place) :
    path.steps.foldl Disk.step place = path.names.foldl Disk.step place := by
  rw [Path.steps_eq, List.foldl_append]
  split
  · rw [List.foldl_cons, List.foldl_nil, Disk.step, if_pos rfl]
  · rfl

theorem Disk.placeOf_join (disk : Disk) (base : Path) {name : String} (isName : Path.IsName name) :
    disk.placeOf (base.join ⟨name⟩) = disk.placeOf base ++ [name] := by
  rw [placeOf, placeOf, start, start, base.isAbsolute_join isName, base.steps_join isName, foldl_step_names base,
    List.foldl_append, List.foldl_cons, List.foldl_nil, step, if_neg isName.leads.1, if_neg isName.leads.2]

theorem Blake3.length_digest (bytes : Bytes) : (blake3 bytes).length = 32 := by
  simp [blake3, length_littleEndian]

/-- An object's name is made of digits and letters. -/
theorem isName_objectId (bytes : Bytes) : Path.IsName (objectId bytes) := by
  have digits : ∀ n < 16, (Nat.toDigits 16 n).headD '0' ≠ '/' ∧ (Nat.toDigits 16 n).headD '0' ≠ '.' := by decide
  have plain : ∀ c ∈ (objectId bytes).toList, c ≠ '/' ∧ c ≠ '.' := by
    intro c member
    rw [objectId, hexText, String.toList_ofList, List.mem_flatMap] at member
    obtain ⟨byte, -, member⟩ := member
    have := byte.toNat_lt
    rcases List.mem_pair.1 member with rfl | rfl
    · exact digits _ (by omega)
    · exact digits _ (by omega)
  refine ⟨?_, ⟨?_, ?_⟩, fun slash => (plain _ slash).1 rfl⟩
  · intro empty
    have characters : (objectId bytes).toList.length = 64 := by
      simp [objectId, hexText, Blake3.length_digest]
    rw [empty] at characters
    cases characters
  · intro same
    exact (plain '.' (by rw [same]; decide)).2 rfl
  · intro same
    exact (plain '.' (by rw [same]; decide)).2 rfl

theorem placeOf_indexPath (disk : Disk) (root : Path) :
    disk.placeOf (SnapshotStore.indexPath root) = disk.placeOf root ++ ["index.json"] :=
  disk.placeOf_join root ⟨by decide, by decide, by decide⟩

theorem placeOf_objectPath (disk : Disk) (store : SnapshotStore) (isName : Path.IsName id) :
    disk.placeOf (store.objectPath id) = disk.placeOf store.root ++ ["objects", id] := by
  rw [SnapshotStore.objectPath, disk.placeOf_join _ isName, disk.placeOf_join _ ⟨by decide, by decide, by decide⟩,
    List.append_assoc]
  rfl

/-- The places of a store's files: the index and the objects. -/
def Disk.Stored (disk : Disk) (root : Path) (place : Place) : Prop :=
  place = disk.placeOf root ++ ["index.json"] ∨ disk.placeOf root ++ ["objects"] <+: place

theorem Disk.Stored.below {root : Path} {place : Place} (stored : disk.Stored root place) :
    disk.placeOf root <+: place := by
  obtain rfl | object := stored
  · exact List.prefix_append _ _
  · exact (List.prefix_append _ _).trans object

theorem Disk.stored_index (disk : Disk) (root : Path) :
    disk.Stored root (disk.placeOf root ++ ["index.json"]) := Or.inl rfl

theorem Disk.stored_object (disk : Disk) (root : Path) (id : String) :
    disk.Stored root (disk.placeOf root ++ ["objects", id]) :=
  Or.inr ⟨[id], by rw [List.append_assoc]; rfl⟩

theorem Disk.Changes.stored {touched : Place → Prop} (changes : Disk.Changes touched disk disk') (root : Path) :
    disk'.Stored root = disk.Stored root := by
  funext place
  rw [Stored, Stored, changes.placeOf]

/-! What the operations on a store do. -/

/-- The contents of an object that is what its name says. -/
def Disk.Object (disk : Disk) (store : SnapshotStore) (id : String) (bytes : Bytes) : Prop :=
  disk.read (store.objectPath id) = .ok bytes ∧ objectId bytes = id

/-- What reading an object does. -/
theorem does_object {store₀ : SnapshotStore} : Does (store₀.object id) store disk bytes store' disk' ↔
    disk.Object store₀ id bytes ∧ store = store' ∧ disk = disk' := by
  rw [SnapshotStore.object, does_bind]
  simp only [does_adapt, does_readFile]
  constructor
  · rintro ⟨bytes', _, _, ⟨found, rfl, rfl⟩, later⟩
    split at later
    · rename_i same
      obtain ⟨rfl, rfl, rfl⟩ := does_pure.1 later
      exact ⟨⟨found, same⟩, rfl, rfl⟩
    · exact absurd later does_throw
  · rintro ⟨⟨found, same⟩, rfl, rfl⟩
    refine ⟨bytes, _, _, ⟨found, rfl, rfl⟩, ?_⟩
    rw [if_pos same]
    exact does_pure.2 ⟨rfl, rfl, rfl⟩

namespace SnapshotStore

/-- A module's files as they are after a restore. -/
inductive Restores (store : SnapshotStore) (name : String) (files : ModuleFiles) (disk disk' : Disk) : Prop
  | both {id id' : String} {bytes bytes' : Bytes} {between : Disk}
      (recorded : store.entryOf? name = some ⟨id, some id'⟩)
      (binary : disk.Object store id bytes) (first : disk.Writes files.binary bytes between)
      (symbols : between.Object store id' bytes') (second : between.Writes files.symbols bytes' disk')
  | alone {id : String} {bytes : Bytes} {between : Disk} (recorded : store.entryOf? name = some ⟨id, none⟩)
      (binary : disk.Object store id bytes) (first : disk.Writes files.binary bytes between)
      (gone : between.remove files.symbols = .ok disk' ∨ between.isFile files.symbols = false ∧ between = disk')

/-- What a restore does that succeeds. -/
theorem does_restore {store₀ : SnapshotStore} (does : Does (store₀.restore name files) store disk () store' disk') :
    store₀.Restores name files disk disk' ∧ store = store' := by
  unfold restore at does
  split at does
  · exact absurd does does_throw
  rename_i entry recorded
  obtain ⟨id, symbols⟩ := entry
  obtain ⟨bytes, _, _, reading, does⟩ := does_bind.1 does
  obtain ⟨object, rfl, rfl⟩ := does_object.1 reading
  obtain ⟨⟨⟩, _, between, writing, does⟩ := does_bind.1 does
  obtain ⟨first, same⟩ := does_writeFile.1 (does_adapt.1 writing)
  subst same
  cases symbols with
  | some id' =>
    obtain ⟨bytes', _, _, reading', does⟩ := does_bind.1 does
    obtain ⟨object', rfl, rfl⟩ := does_object.1 reading'
    obtain ⟨second, same⟩ := does_writeFile.1 (does_adapt.1 does)
    exact ⟨.both recorded object first object' second, same⟩
  | none =>
    obtain ⟨outcome, _, between', removing, does⟩ := does_bind.1 does
    obtain ⟨rfl, removed⟩ := does_removeFile removing
    have gone : between.remove files.symbols = .ok between' ∨ between.isFile files.symbols = false ∧
        between = between' := by
      refine removed.imp_right fun ⟨same, fault, refused, _⟩ => ⟨?_, same⟩
      exact Disk.isFile_of_remove_error refused
    split at does
    · obtain ⟨-, same, rfl⟩ := does_pure.1 does
      exact ⟨.alone recorded object first gone, same⟩
    · obtain ⟨-, same, rfl⟩ := does_pure.1 does
      exact ⟨.alone recorded object first gone, same⟩
    · exact absurd does does_throw

/-- A restore of a backup with symbols, file by file. -/
theorem does_restore_both {store₀ : SnapshotStore} {id id' : String} {bytes bytes' : Bytes} {between : Disk}
    (recorded : store₀.entryOf? name = some ⟨id, some id'⟩) (binary : disk.Object store₀ id bytes)
    (first : disk.Writes files.binary bytes between) (symbols : between.Object store₀ id' bytes')
    (second : between.Writes files.symbols bytes' disk') :
    Does (store₀.restore name files) store disk () store disk' := by
  rw [restore, recorded]
  refine does_bind.2 ⟨bytes, store, disk, does_object.2 ⟨binary, rfl, rfl⟩, ?_⟩
  refine does_bind.2 ⟨(), store, between, does_adapt.2 (does_writeFile.2 ⟨first, rfl⟩), ?_⟩
  refine does_bind.2 ⟨bytes', store, between, does_object.2 ⟨symbols, rfl, rfl⟩, ?_⟩
  exact does_adapt.2 (does_writeFile.2 ⟨second, rfl⟩)

theorem Restores.recorded (restores : store.Restores name files disk disk') :
    ∃ entry bytes, store.entryOf? name = some entry ∧ disk.Object store entry.binary bytes := by
  cases restores with
  | both recorded object _ _ _ => exact ⟨_, _, recorded, object⟩
  | alone recorded object _ _ => exact ⟨_, _, recorded, object⟩

/-- A restore changes the files of the module only. -/
theorem Restores.changes (restores : store.Restores name files disk disk') :
    Disk.Changes (disk.Holds files) disk disk' := by
  cases restores with
  | both recorded binary first symbols second =>
    refine (first.changes.mono fun _ => Or.inl).trans (second.changes.mono fun place same => Or.inr ?_)
    rw [same, first.changes.placeOf]
  | alone recorded binary first gone =>
    refine (first.changes.mono fun _ => Or.inl).trans ?_
    rcases gone with removed | ⟨-, rfl⟩
    · refine (Disk.Changes.remove removed).mono fun place same => Or.inr ?_
      rw [same, first.changes.placeOf]
    · exact .refl _

/-- A file's contents are kept as an object, unless there is one already. -/
def Keeps (store : SnapshotStore) (disk : Disk) (path : Path) (id : String) (store' : SnapshotStore)
    (disk' : Disk) : Prop :=
  ∃ bytes, disk.read path = .ok bytes ∧ objectId bytes = id ∧
    ((disk.isFile (store.objectPath id) = true ∧ store = store' ∧ disk = disk') ∨
      (disk.isFile (store.objectPath id) = false ∧ disk.Writes (store.objectPath id) bytes disk' ∧
        { store with writes := store.writes + 1 } = store'))

/-- What a counted write does. -/
theorem does_writeCounted {done : Unit} : Does (writeCounted path bytes) store disk done store' disk' ↔
    disk.Writes path bytes disk' ∧ { store with writes := store.writes + 1 } = store' := by
  rw [writeCounted, does_bind]
  constructor
  · rintro ⟨⟨⟩, _, between, writing, counting⟩
    obtain ⟨put, rfl⟩ := does_writeFile.1 (does_adapt.1 writing)
    obtain ⟨same, rfl⟩ := does_modify.1 counting
    exact ⟨put, same⟩
  · rintro ⟨put, same⟩
    exact ⟨(), store, disk', does_adapt.2 (does_writeFile.2 ⟨put, rfl⟩), does_modify.2 ⟨same, rfl⟩⟩

/-- What keeping a file does. -/
theorem does_keepFile : Does (keepFile path) store disk id store' disk' ↔ store.Keeps disk path id store' disk' := by
  rw [keepFile, does_bind]
  constructor
  · rintro ⟨bytes, _, _, reading, later⟩
    obtain ⟨found, rfl, rfl⟩ := does_readFile.1 (does_adapt.1 reading)
    obtain ⟨_, _, _, getting, later⟩ := does_bind.1 later
    obtain ⟨rfl, rfl, rfl⟩ := does_get.1 getting
    obtain ⟨present, _, _, asking, later⟩ := does_bind.1 later
    obtain ⟨asked, rfl, rfl⟩ := does_isFile.1 asking
    cases present with
    | true =>
      obtain ⟨rfl, rfl, rfl⟩ := does_pure.1 later
      exact ⟨bytes, found, rfl, Or.inl ⟨asked, rfl, rfl⟩⟩
    | false =>
      obtain ⟨⟨⟩, _, _, writing, later⟩ := does_bind.1 later
      obtain ⟨put, same⟩ := does_writeCounted.1 writing
      obtain ⟨rfl, rfl, rfl⟩ := does_pure.1 later
      exact ⟨bytes, found, rfl, Or.inr ⟨asked, put, same⟩⟩
  · rintro ⟨bytes, found, rfl, kept⟩
    refine ⟨bytes, store, disk, does_adapt.2 (does_readFile.2 ⟨found, rfl, rfl⟩), ?_⟩
    refine does_bind.2 ⟨store, store, disk, does_get.2 ⟨rfl, rfl, rfl⟩, ?_⟩
    rcases kept with ⟨present, rfl, rfl⟩ | ⟨absent, put, same⟩
    · refine does_bind.2 ⟨true, store, disk, does_isFile.2 ⟨present, rfl, rfl⟩, ?_⟩
      exact does_pure.2 ⟨rfl, rfl, rfl⟩
    · refine does_bind.2 ⟨false, store, disk, does_isFile.2 ⟨absent, rfl, rfl⟩, ?_⟩
      refine does_bind.2 ⟨(), store', disk', does_writeCounted.2 ⟨put, same⟩, ?_⟩
      exact does_pure.2 ⟨rfl, rfl, rfl⟩

/-- A backup is recorded in the index, which is written unless it says so already. -/
def Records (store : SnapshotStore) (disk : Disk) (name : String) (entry : SnapshotEntry) (store' : SnapshotStore)
    (disk' : Disk) : Prop :=
  (store.entryOf? name = some entry ∧ store = store' ∧ disk = disk') ∨
    (store.entryOf? name ≠ some entry ∧
      disk.Writes (indexPath store.root) (textBytes (SnapshotIndex.text (store.index.insert name entry))) disk' ∧
      ⟨store.root, store.index.insert name entry, store.writes + 1⟩ = store')

/-- What recording an entry does. -/
theorem does_record {done : Unit} : Does (record name entry) store disk done store' disk' ↔
    store.Records disk name entry store' disk' := by
  rw [record, does_bind]
  constructor
  · rintro ⟨_, _, _, getting, later⟩
    obtain ⟨rfl, rfl, rfl⟩ := does_get.1 getting
    split at later
    · rename_i same
      obtain ⟨-, rfl, rfl⟩ := does_pure.1 later
      exact Or.inl ⟨same, rfl, rfl⟩
    · rename_i other
      obtain ⟨⟨⟩, _, _, setting, writing⟩ := does_bind.1 later
      obtain ⟨rfl, rfl⟩ := does_set.1 setting
      obtain ⟨put, same⟩ := does_writeCounted.1 writing
      exact Or.inr ⟨other, put, same⟩
  · intro recorded
    refine ⟨store, store, disk, does_get.2 ⟨rfl, rfl, rfl⟩, ?_⟩
    rcases recorded with ⟨same, rfl, rfl⟩ | ⟨other, put, same⟩
    · rw [if_pos same]
      exact does_pure.2 ⟨rfl, rfl, rfl⟩
    · rw [if_neg other]
      refine does_bind.2 ⟨⟨⟩, _, disk, does_set.2 ⟨rfl, rfl⟩, ?_⟩
      exact does_writeCounted.2 ⟨put, same⟩

/-- A module's files are kept, and the objects recorded. -/
def Backs (store : SnapshotStore) (disk : Disk) (name : String) (files : ModuleFiles) (entry : SnapshotEntry)
    (store' : SnapshotStore) (disk' : Disk) : Prop :=
  ∃ store₁ disk₁ store₂ disk₂, store.Keeps disk files.binary entry.binary store₁ disk₁ ∧
    ((entry.symbols = none ∧ disk₁.isFile files.symbols = false ∧ store₁ = store₂ ∧ disk₁ = disk₂) ∨
      ∃ id, entry.symbols = some id ∧ disk₁.isFile files.symbols = true ∧
      store₁.Keeps disk₁ files.symbols id store₂ disk₂) ∧
    store₂.Records disk₂ name entry store' disk'

/-- What a backup does. -/
theorem does_backup : Does (backup name files) store disk entry store' disk' ↔
    store.Backs disk name files entry store' disk' := by
  rw [backup, does_bind]
  constructor
  · rintro ⟨id, store₁, disk₁, keeping, later⟩
    obtain ⟨present, _, _, asking, later⟩ := does_bind.1 later
    obtain ⟨asked, rfl, rfl⟩ := does_hasSymbols.1 asking
    cases present with
    | true =>
      obtain ⟨symbols, store₂, disk₂, kept, later⟩ := does_bind.1 later
      obtain ⟨id', keeping', rfl⟩ := does_map.1 kept
      obtain ⟨⟨⟩, _, _, recording, later⟩ := does_bind.1 later
      obtain ⟨rfl, rfl, rfl⟩ := does_pure.1 later
      exact ⟨store₁, disk₁, store₂, disk₂, does_keepFile.1 keeping,
        Or.inr ⟨id', rfl, asked, does_keepFile.1 keeping'⟩, does_record.1 recording⟩
    | false =>
      obtain ⟨symbols, _, _, kept, later⟩ := does_bind.1 later
      obtain ⟨rfl, rfl, rfl⟩ := does_pure.1 kept
      obtain ⟨⟨⟩, _, _, recording, later⟩ := does_bind.1 later
      obtain ⟨rfl, rfl, rfl⟩ := does_pure.1 later
      exact ⟨store₁, disk₁, store₁, disk₁, does_keepFile.1 keeping, Or.inl ⟨rfl, asked, rfl, rfl⟩,
        does_record.1 recording⟩
  · rintro ⟨store₁, disk₁, store₂, disk₂, binary, symbols, recorded⟩
    obtain ⟨id, symbols?⟩ := entry
    refine ⟨id, store₁, disk₁, does_keepFile.2 binary, ?_⟩
    rcases symbols with ⟨rfl, asked, rfl, rfl⟩ | ⟨id', rfl, asked, kept⟩
    · refine does_bind.2 ⟨false, store₁, disk₁, does_hasSymbols.2 ⟨asked, rfl, rfl⟩, ?_⟩
      refine does_bind.2 ⟨none, store₁, disk₁, does_pure.2 ⟨rfl, rfl, rfl⟩, ?_⟩
      exact does_bind.2 ⟨(), store', disk', does_record.2 recorded, does_pure.2 ⟨rfl, rfl, rfl⟩⟩
    · refine does_bind.2 ⟨true, store₁, disk₁, does_hasSymbols.2 ⟨asked, rfl, rfl⟩, ?_⟩
      refine does_bind.2 ⟨some id', store₂, disk₂, does_map.2 ⟨id', does_keepFile.2 kept, rfl⟩, ?_⟩
      exact does_bind.2 ⟨(), store', disk', does_record.2 recorded, does_pure.2 ⟨rfl, rfl, rfl⟩⟩

/-! Where a backup writes. -/

theorem Keeps.same (keeps : store.Keeps disk path id store' disk') :
    store'.root = store.root ∧ store'.index = store.index := by
  obtain ⟨bytes, -, -, ⟨-, rfl, -⟩ | ⟨-, -, rfl⟩⟩ := keeps <;> exact ⟨rfl, rfl⟩

theorem Keeps.changes (keeps : store.Keeps disk path id store' disk') :
    Disk.Changes (· = disk.placeOf store.root ++ ["objects", id]) disk disk' := by
  obtain ⟨bytes, -, rfl, ⟨-, -, rfl⟩ | ⟨-, put, -⟩⟩ := keeps
  · exact .refl _
  · rw [← placeOf_objectPath disk store (isName_objectId bytes)]
    exact put.changes

theorem Records.root (records : store.Records disk name entry store' disk') : store'.root = store.root := by
  obtain ⟨-, rfl, -⟩ | ⟨-, -, rfl⟩ := records <;> rfl

theorem Records.changes (records : store.Records disk name entry store' disk') :
    Disk.Changes (· = disk.placeOf store.root ++ ["index.json"]) disk disk' := by
  obtain ⟨-, -, rfl⟩ | ⟨-, put, -⟩ := records
  · exact .refl _
  · rw [← placeOf_indexPath]
    exact put.changes

theorem Backs.root (backs : store.Backs disk name files entry store' disk') : store'.root = store.root := by
  obtain ⟨store₁, disk₁, store₂, disk₂, binary, symbols, recorded⟩ := backs
  rw [recorded.root, ← binary.same.1]
  obtain ⟨-, -, rfl, -⟩ | ⟨id, -, -, kept⟩ := symbols
  · rfl
  · exact kept.same.1

/-- A backup changes the store only. -/
theorem Backs.changes_stored (backs : store.Backs disk name files entry store' disk') :
    Disk.Changes (disk.Stored store.root) disk disk' := by
  obtain ⟨store₁, disk₁, store₂, disk₂, binary, symbols, recorded⟩ := backs
  have object (id : String) (place : Place) (same : place = disk.placeOf store.root ++ ["objects", id]) :
      disk.Stored store.root place := same ▸ disk.stored_object store.root id
  have first := binary.changes.mono (object _)
  have second : Disk.Changes (disk.Stored store.root) disk₁ disk₂ ∧ store₂.root = store.root := by
    obtain ⟨-, -, rfl, rfl⟩ | ⟨id, -, -, kept⟩ := symbols
    · exact ⟨.refl _, binary.same.1⟩
    · have changes := kept.changes
      rw [first.placeOf, binary.same.1] at changes
      exact ⟨changes.mono (object _), kept.same.1.trans binary.same.1⟩
  have third := recorded.changes
  rw [second.1.placeOf, first.placeOf, second.2] at third
  exact (first.trans second.1).trans (third.mono fun _ => Or.inl)

theorem Backs.changes (backs : store.Backs disk name files entry store' disk') :
    Disk.Changes (disk.placeOf store.root <+: ·) disk disk' := backs.changes_stored.mono fun _ => Disk.Stored.below

end SnapshotStore

/-! Opening a store. -/

/-- A text file is read by a lookup on the disk. -/
theorem run_readText {ε : Type} (disk : Disk) (path : Path) :
    (readText path : ExceptT FileError (ExceptT ε (StateM Disk)) String).run.run.run disk =
      match disk.read path with
      | .error fault => (.ok (.error ⟨path, fault⟩), disk)
      | .ok bytes =>
        match decodeUtf8 bytes with
        | .error _ => (.ok (.error ⟨path, .notText⟩), disk)
        | .ok text => (.ok (.ok text), disk) := by
  change (ExceptT.bindCont _ ((disk.read path).mapError fun fault => (⟨path, fault⟩ : FileError)) :
    ExceptT ε (StateM Disk) _).run.run disk = _
  cases disk.read path with
  | error fault => rfl
  | ok bytes =>
    dsimp only [Except.mapError, ExceptT.bindCont]
    cases decodeUtf8 bytes <;> rfl

/-- A store is opened on the disk. -/
def Disk.Opens (disk : Disk) (root : Path) (store : SnapshotStore) : Prop :=
  ((SnapshotStore.openAt root : ExceptT SnapshotError (StateM Disk) SnapshotStore).run.run disk).1 = .ok store

/-- A store is opened with the index that stands on the disk, or empty if there is none. -/
theorem Disk.opens_iff {root : Path} : disk.Opens root store ↔ ∃ index, store = ⟨root, index, 0⟩ ∧
    ((∃ text, disk.read (SnapshotStore.indexPath root) = .ok (textBytes text) ∧
      SnapshotIndex.ofText? text = some index) ∨
      (disk.read (SnapshotStore.indexPath root) = .error .notFound ∧ index = .empty)) := by
  have opened {ε α β : Type} (work : ExceptT ε (StateM Disk) α) (next : α → ExceptT ε (StateM Disk) β) :
      ((work >>= next).run.run disk).1 = match work.run.run disk with
        | (.ok value, between) => ((next value).run.run between).1
        | (.error failure, _) => .error failure := by
    change ((ExceptT.bindCont next (work.run.run disk).1 : StateM Disk _).run (work.run.run disk).2).1 = _
    rcases work.run.run disk with ⟨outcome, between⟩
    cases outcome <;> rfl
  unfold Opens SnapshotStore.openAt
  rw [opened, run_readText]
  cases disk.read (SnapshotStore.indexPath root) with
  | error fault =>
    cases fault with
    | notFound =>
      refine ⟨fun same => ⟨.empty, (Except.ok.inj same).symm, Or.inr ⟨rfl, rfl⟩⟩, ?_⟩
      rintro ⟨_, rfl, ⟨text, impossible, -⟩ | ⟨-, rfl⟩⟩
      · cases impossible
      · rfl
    | _ =>
      refine iff_of_false (fun same => by cases same) ?_
      rintro ⟨_, rfl, ⟨text, impossible, -⟩ | ⟨impossible, -⟩⟩ <;> cases impossible
  | ok bytes =>
    dsimp only
    cases decoded : decodeUtf8 bytes with
    | error fault =>
      refine iff_of_false (fun same => by cases same) ?_
      rintro ⟨_, rfl, ⟨text, same, -⟩ | ⟨impossible, -⟩⟩
      · rw [Except.ok.inj same, decodeUtf8_textBytes] at decoded
        cases decoded
      · cases impossible
    | ok text =>
      obtain rfl := textBytes_of_decodeUtf8 decoded
      dsimp only
      cases parsed : SnapshotIndex.ofText? text with
      | none =>
        refine iff_of_false (fun same => by cases same) ?_
        rintro ⟨_, rfl, ⟨text', same, parsed'⟩ | ⟨impossible, -⟩⟩
        · rw [← textBytes_inj.1 (Except.ok.inj same), parsed] at parsed'
          cases parsed'
        · cases impossible
      | some index =>
        constructor
        · exact fun same => ⟨index, (Except.ok.inj same).symm, Or.inl ⟨text, rfl, parsed⟩⟩
        · rintro ⟨_, rfl, ⟨text', same, parsed'⟩ | ⟨impossible, -⟩⟩
          · rw [← textBytes_inj.1 (Except.ok.inj same), parsed] at parsed'
            rw [Option.some.inj parsed']
            rfl
          · cases impossible

/-! Stores that are on the disk as they are in memory. -/

namespace SnapshotStore

/-- The index file says what the index does. -/
def OnDisk (store : SnapshotStore) (disk : Disk) : Prop :=
  ∃ text, disk.read (indexPath store.root) = .ok (textBytes text) ∧ SnapshotIndex.ofText? text = some store.index

/-- Opened again, the store is the same but for the count of its writes. -/
def Synced (store : SnapshotStore) (disk : Disk) : Prop := disk.Opens store.root { store with writes := 0 }

theorem synced_iff : store.Synced disk ↔
    store.OnDisk disk ∨ disk.read (indexPath store.root) = .error .notFound ∧ store.index = .empty := by
  rw [Synced, Disk.opens_iff]
  constructor
  · rintro ⟨index, same, opened⟩
    cases same
    exact opened
  · exact fun opened => ⟨_, rfl, opened⟩

theorem Synced.onDisk (synced : store.Synced disk)
    (recorded : store.entryOf? name = some entry) : store.OnDisk disk := by
  refine (synced_iff.1 synced).resolve_right fun fresh => ?_
  rw [entryOf?, fresh.2] at recorded
  cases recorded

theorem OnDisk.changes {touched : Place → Prop} (onDisk : store.OnDisk disk)
    (changes : Disk.Changes touched disk disk')
    (untouched : ¬ touched (disk.placeOf store.root ++ ["index.json"])) : store.OnDisk disk' := by
  obtain ⟨text, found, parsed⟩ := onDisk
  rw [← placeOf_indexPath] at untouched
  exact ⟨text, changes.read untouched found, parsed⟩

theorem Keeps.onDisk (onDisk : store.OnDisk disk) (keeps : store.Keeps disk path id store' disk') :
    store'.OnDisk disk' := by
  have kept : store.OnDisk disk' := onDisk.changes keeps.changes fun same => by simp at same
  unfold OnDisk at kept ⊢
  rwa [keeps.same.1, keeps.same.2]

theorem Records.onDisk (onDisk : ∀ entry, store.entryOf? name = some entry → store.OnDisk disk)
    (records : store.Records disk name entry store' disk') : store'.OnDisk disk' := by
  obtain ⟨recorded, rfl, rfl⟩ | ⟨-, put, rfl⟩ := records
  · exact onDisk entry recorded
  · exact ⟨_, put.read, SnapshotIndex.ofText?_text _⟩

/-- A backup leaves its index on the disk, if an index that is not empty is there to begin with. -/
theorem Backs.onDisk_of_indexed (indexed : ∀ entry, store.entryOf? name = some entry → store.OnDisk disk)
    (backs : store.Backs disk name files entry store' disk') : store'.OnDisk disk' := by
  obtain ⟨store₁, disk₁, store₂, disk₂, binary, symbols, recorded⟩ := backs
  refine recorded.onDisk fun entry' present => ?_
  obtain ⟨-, -, rfl, rfl⟩ | ⟨id, -, -, kept⟩ := symbols
  · rw [entryOf?, binary.same.2] at present
    exact binary.onDisk (indexed _ present)
  · rw [entryOf?, kept.same.2, binary.same.2] at present
    exact kept.onDisk (binary.onDisk (indexed _ present))

theorem Backs.onDisk (synced : store.Synced disk) (backs : store.Backs disk name files entry store' disk') :
    store'.OnDisk disk' := backs.onDisk_of_indexed fun _ => synced.onDisk

end SnapshotStore

end Faultline
