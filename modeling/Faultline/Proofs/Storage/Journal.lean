import Faultline.Proofs.Storage.SnapshotStore

namespace Faultline

/-- A disk with the writes to it: for each of them the path, and the disk as it was afterwards. -/
structure Journal where
  disk : Disk
  written : List (Path × Disk)

namespace Journal

/-- Enters a write, if it succeeds. -/
def enter (journal : Journal) (path : Path) : Except Fault Disk → Except Fault Unit × Journal
  | .ok disk => (.ok (), ⟨disk, journal.written ++ [(path, disk)]⟩)
  | .error fault => (.error fault, journal)

/-- Goes on with another disk, to which no file was written. -/
def goOn {α : Type} (journal : Journal) (ending : α × Disk) : α × Journal :=
  (ending.1, { journal with disk := ending.2 })

instance : FileAccess (StateM Journal) where
  isFile path := do return (← get).disk.isFile path
  read path := do return (← get).disk.read path
  createFolders path := modifyGet fun journal => journal.goOn (journal.disk.createFolders path)
  write path bytes := modifyGet fun journal => journal.enter path (journal.disk.write path bytes)
  remove path := modifyGet fun journal => journal.goOn (journal.disk.keep (journal.disk.remove path))
  filesBelow path := do return (← get).disk.filesBelow path

end Journal

/-- What is done with a snapshot store while a journal is kept. -/
abbrev Logged (ε α : Type) := ExceptT ε (StateT SnapshotStore (StateM Journal)) α

section Logged

variable {ε ε' α β : Type} {work : Logged ε α} {next : α → Logged ε β} {store between store' : SnapshotStore}
  {disk disk₁ disk' : Disk} {value : α} {result : β} {entries entries' : List (Path × Disk)}
  {made made' : Path × Disk → Prop}

def Logged.ending (work : Logged ε α) (store : SnapshotStore) (journal : Journal) :
    (Except ε α × SnapshotStore) × Journal :=
  (work.run.run store).run journal

/-- The work succeeds with the value, and makes these entries in the journal. -/
def Enters (work : Logged ε α) (store : SnapshotStore) (disk : Disk) (value : α) (store' : SnapshotStore)
    (disk' : Disk) (entries : List (Path × Disk)) : Prop :=
  ∀ written, work.ending store ⟨disk, written⟩ = ((.ok value, store'), ⟨disk', written ++ entries⟩)

/-- Work that makes no entry. -/
theorem enters_of_ending
    (ending : ∀ written, work.ending store ⟨disk, written⟩ = ((.ok value, store'), ⟨disk', written⟩)) :
    Enters work store disk value store' disk' [] := fun written => by rw [ending, List.append_nil]

theorem enters_pure : Enters (pure value : Logged ε α) store disk value store disk [] := enters_of_ending fun _ => rfl

theorem enters_get : Enters (get : Logged ε SnapshotStore) store disk store store disk [] :=
  enters_of_ending fun _ => rfl

theorem enters_set : Enters (set store' : Logged ε PUnit) store disk ⟨⟩ store' disk [] :=
  enters_of_ending fun _ => rfl

theorem enters_modify {f : SnapshotStore → SnapshotStore} :
    Enters (modify f : Logged ε PUnit) store disk ⟨⟩ (f store) disk [] :=
  enters_of_ending fun _ => rfl

theorem enters_isFile (path : Path) :
    Enters (FileAccess.isFile path : Logged ε Bool) store disk (disk.isFile path) store disk [] :=
  enters_of_ending fun _ => rfl

/-- Two pieces of work in sequence make the entries of both. -/
theorem Enters.bind (first : Enters work store disk value between disk₁ entries)
    (second : Enters (next value) between disk₁ result store' disk' entries') :
    Enters (work >>= next) store disk result store' disk' (entries ++ entries') := by
  intro written
  change (match work.ending store ⟨disk, written⟩ with
    | ((outcome, between), journal) =>
      ((ExceptT.bindCont next outcome : StateT SnapshotStore (StateM Journal) _).run between).run journal) = _
  rw [first written, ← List.append_assoc]
  exact second (written ++ entries)

theorem Enters.silent_bind (first : Enters work store disk value between disk₁ [])
    (second : Enters (next value) between disk₁ result store' disk' entries) :
    Enters (work >>= next) store disk result store' disk' entries := first.bind second

theorem Enters.bind_silent (first : Enters work store disk value between disk₁ entries)
    (second : Enters (next value) between disk₁ result store' disk' []) :
    Enters (work >>= next) store disk result store' disk' entries := List.append_nil entries ▸ first.bind second

theorem Enters.map {f : α → β} (enters : Enters work store disk value store' disk' entries) :
    Enters (f <$> work) store disk (f value) store' disk' entries := by
  rw [map_eq_pure_bind]
  exact enters.bind_silent enters_pure

theorem Enters.adapt {f : ε → ε'} (enters : Enters work store disk value store' disk' entries) :
    Enters (work.adapt f : Logged ε' α) store disk value store' disk' entries := by
  intro written
  change (match work.ending store ⟨disk, written⟩ with
    | ((outcome, between), journal) => ((outcome.mapError f, between), journal)) = _
  rw [enters written]
  rfl

/-- The work succeeds with the value, and every entry that it makes in the journal is one of these. -/
def Logs (work : Logged ε α) (store : SnapshotStore) (disk : Disk) (value : α) (store' : SnapshotStore) (disk' : Disk)
    (made : Path × Disk → Prop) : Prop :=
  ∃ entries, (∀ written, work.ending store ⟨disk, written⟩ = ((.ok value, store'), ⟨disk', written ++ entries⟩)) ∧
    ∀ entry ∈ entries, made entry

theorem Enters.logs (enters : Enters work store disk value store' disk' entries)
    (each : ∀ entry ∈ entries, made entry) :
    Logs work store disk value store' disk' made := ⟨entries, enters, each⟩

theorem Enters.logs_nothing (enters : Enters work store disk value store' disk' []) :
    Logs work store disk value store' disk' made :=
  enters.logs fun _ member => (List.not_mem_nil member).elim

theorem Logs.mono (logs : Logs work store disk value store' disk' made) (more : ∀ entry, made entry → made' entry) :
    Logs work store disk value store' disk' made' := by
  obtain ⟨entries, enters, each⟩ := logs
  exact ⟨entries, enters, fun entry member => more entry (each entry member)⟩

theorem logs_pure : Logs (pure value : Logged ε α) store disk value store disk made := enters_pure.logs_nothing

theorem Logs.bind (first : Logs work store disk value between disk₁ made)
    (second : Logs (next value) between disk₁ result store' disk' made) :
    Logs (work >>= next) store disk result store' disk' made := by
  obtain ⟨entries, enters, each⟩ := first
  obtain ⟨entries', enters', each'⟩ := second
  exact (Enters.bind enters enters').logs (List.forall_mem_append.2 ⟨each, each'⟩)

theorem Logs.map {f : α → β} (logs : Logs work store disk value store' disk' made) :
    Logs (f <$> work) store disk (f value) store' disk' made := by
  obtain ⟨entries, enters, each⟩ := logs
  exact (Enters.map enters).logs each

theorem Logs.discard (logs : Logs work store disk value store' disk' made) :
    Logs (discard work) store disk ⟨⟩ store' disk' made := by
  rw [Functor.discard, LawfulFunctor.map_const, Function.comp_apply]
  exact logs.map

theorem Logs.adapt {f : ε → ε'} (logs : Logs work store disk value store' disk' made) :
    Logs (work.adapt f : Logged ε' α) store disk value store' disk' made := by
  obtain ⟨entries, enters, each⟩ := logs
  exact (Enters.adapt enters).logs each

theorem logs_get : Logs (get : Logged ε SnapshotStore) store disk store store disk made := enters_get.logs_nothing

theorem logs_isFile (path : Path) : Logs (FileAccess.isFile path : Logged ε Bool) store disk
    (disk.isFile path) store disk made :=
  (enters_isFile path).logs_nothing

end Logged

/-! The entries that the operations make. -/

section Operations

variable {ε : Type} {store store' : SnapshotStore} {disk disk' : Disk} {path : Path} {bytes : Bytes}
  {files : ModuleFiles} {made : Path × Disk → Prop}

theorem enters_readFile (found : disk.read path = .ok bytes) :
    Enters (readFile path) store disk bytes store disk [] :=
  enters_of_ending fun written => by
    change (((disk.read path).mapError _, _), _) = _
    rw [found]
    rfl

theorem logs_readFile (found : disk.read path = .ok bytes) : Logs (readFile path) store disk bytes store disk made :=
  (enters_readFile found).logs_nothing

theorem logs_readText {text : String} (found : disk.read path = .ok (textBytes text)) :
    Logs (readText path) store disk text store disk made := by
  rw [readText]
  refine (logs_readFile found).bind ?_
  rw [decodeUtf8_textBytes]
  exact logs_pure

theorem enters_createFolders (created : disk.createFolders path = (.ok (), disk')) :
    Enters (onPath path (FileAccess.createFolders path)) store disk () store disk' [] :=
  enters_of_ending fun written => by
    change (((disk.createFolders path).1.mapError _, _),
      ({ disk := (disk.createFolders path).2, written } : Journal)) = _
    rw [created]
    rfl

theorem enters_write (written : disk.write path bytes = .ok disk') :
    Enters (onPath path (FileAccess.write path bytes)) store disk () store disk' [(path, disk')] := by
  intro before
  change ((((Journal.enter ⟨disk, before⟩ path (disk.write path bytes)).1.mapError _, store),
    (Journal.enter ⟨disk, before⟩ path (disk.write path bytes)).2) :
    (Except FileError Unit × SnapshotStore) × Journal) = _
  rw [written]
  rfl

theorem Disk.Writes.enters (writes : disk.Writes path bytes disk') :
    Enters (writeFile path bytes) store disk () store disk' [(path, disk')] := by
  obtain ⟨between, created, written⟩ := writes
  rw [writeFile]
  exact (enters_createFolders created).silent_bind (enters_write written)

theorem Disk.Writes.logs (writes : disk.Writes path bytes disk') :
    Logs (writeFile path bytes) store disk () store disk' (· = (path, disk')) := writes.enters.logs fun _ =>
    List.mem_singleton.1

theorem logs_removeFile {outcome : Except FileError Unit}
    (does : Does (removeFile path : ExceptT FileError (Work ε) Unit).run store disk outcome store' disk') :
    Logs (removeFile path : ExceptT FileError (Logged ε) Unit).run store disk outcome store' disk' made := by
  obtain ⟨rfl, rfl, rfl⟩ := does_removeFile_iff.1 does
  exact (enters_of_ending fun _ => rfl).logs_nothing

/-- Loading a module writes nothing. -/
theorem Disk.Loads.logs {module : Module} (loads : disk.Loads files module) :
    Logs files.load store disk module store disk made := by
  rw [ModuleFiles.load]
  cases loads with
  | bare found decoded absent =>
    refine (logs_readFile found).adapt.bind ?_
    rw [decoded]
    refine (logs_isFile files.symbols).bind ?_
    rw [absent]
    exact logs_pure
  | @located bytes text symbols bare found decoded present parsed applied =>
    refine (logs_readFile found).adapt.bind ?_
    rw [decoded]
    refine (logs_isFile files.symbols).bind ?_
    rw [Disk.isFile_iff.2 ⟨_, present⟩]
    have reading : Logs files.readSymbols store disk symbols store disk made := by
      rw [ModuleFiles.readSymbols]
      refine (logs_readText present).adapt.bind ?_
      rw [parsed]
      exact logs_pure
    refine reading.bind ?_
    rw [applied]
    exact logs_pure

/-- The binary is written, and then it is the symbols, after which the module is stored. -/
def Paired (files : ModuleFiles) (disk' : Disk) (entry : Path × Disk) : Prop :=
  entry.1 = files.binary ∨ entry = (files.symbols, disk')

theorem Disk.Writes.logs_binary {between : Disk} (writes : disk.Writes files.binary bytes between) :
    Logs (writeFile files.binary bytes) store disk () store between (Paired files disk') :=
  writes.logs.mono fun _ same => Or.inl (congrArg Prod.fst same)

theorem Disk.Writes.logs_symbols (writes : disk.Writes files.symbols bytes disk') :
    Logs (writeFile files.symbols bytes) store disk () store disk' (Paired files disk') :=
  writes.logs.mono fun _ => Or.inr

theorem Disk.Stores.logs {module : Module} (stores : disk.Stores files module disk') :
    Logs (files.store module) store disk () store disk' (Paired files disk') := by
  obtain ⟨between, binary, symbols⟩ := stores
  rw [ModuleFiles.store]
  exact binary.logs_binary.adapt.bind symbols.logs_symbols.adapt

end Operations

namespace SnapshotStore

variable {store store₁ store₂ store' : SnapshotStore} {disk disk₁ disk₂ disk' : Disk} {path : Path}
  {bytes : Bytes} {files : ModuleFiles} {name id : String} {entry : SnapshotEntry} {made : Path × Disk → Prop}

theorem logs_object {store₀ : SnapshotStore} (object : disk.Object store₀ id bytes) :
    Logs (store₀.object id) store disk bytes store disk made := by
  rw [SnapshotStore.object]
  refine (logs_readFile object.1).adapt.bind ?_
  rw [if_pos object.2]
  exact logs_pure

/-- A restore writes the two files of the module and nothing else. -/
theorem logs_restore {store₀ : SnapshotStore} (does : Does (store₀.restore name files) store disk () store' disk') :
    Logs (store₀.restore name files) store disk () store' disk' (Paired files disk') := by
  unfold restore at does
  split at does
  · exact absurd does does_throw
  rename_i entry recorded
  obtain ⟨id, symbols⟩ := entry
  obtain ⟨bytes, _, _, reading, does⟩ := does_bind.1 does
  obtain ⟨object, rfl, rfl⟩ := does_object.1 reading
  obtain ⟨⟨⟩, _, between, writing, does⟩ := does_bind.1 does
  obtain ⟨first, rfl⟩ := does_writeFile.1 (does_adapt.1 writing)
  rw [restore, recorded]
  refine (logs_object object).bind (first.logs_binary.adapt.bind ?_)
  cases symbols with
  | some id' =>
    obtain ⟨bytes', _, _, reading', does⟩ := does_bind.1 does
    obtain ⟨object', rfl, rfl⟩ := does_object.1 reading'
    obtain ⟨second, rfl⟩ := does_writeFile.1 (does_adapt.1 does)
    exact (logs_object object').bind second.logs_symbols.adapt
  | none =>
    obtain ⟨outcome, _, _, removing, does⟩ := does_bind.1 does
    refine (logs_removeFile removing).bind ?_
    split at does
    · obtain ⟨-, rfl, rfl⟩ := does_pure.1 does
      exact logs_pure
    · obtain ⟨-, rfl, rfl⟩ := does_pure.1 does
      exact logs_pure
    · exact absurd does does_throw

/-- The entry for an object that a backup writes, unless it is there. -/
def keepEntries (store : SnapshotStore) (disk : Disk) (id : String) (disk' : Disk) : List (Path × Disk) :=
  if disk.isFile (store.objectPath id) then [] else [(store.objectPath id, disk')]

/-- The entry for the index that a backup writes, unless it says so already. -/
def recordEntries (store : SnapshotStore) (name : String) (entry : SnapshotEntry)
    (disk' : Disk) : List (Path × Disk) :=
  if store.entryOf? name = some entry then [] else [(indexPath store.root, disk')]

theorem enters_writeCounted (writes : disk.Writes path bytes disk') :
    Enters (writeCounted path bytes) store disk ()
      { store with writes := store.writes + 1 } disk' [(path, disk')] := by
  rw [writeCounted]
  exact writes.enters.adapt.bind_silent enters_modify

/-- Keeping a file makes at most the one entry of its object. -/
theorem Keeps.enters (keeps : store.Keeps disk path id store' disk') :
    Enters (keepFile path) store disk id store' disk' (store.keepEntries disk id disk') := by
  obtain ⟨bytes, found, rfl, kept⟩ := keeps
  rw [keepFile, keepEntries]
  refine (enters_readFile found).adapt.silent_bind (enters_get.silent_bind ((enters_isFile _).silent_bind ?_))
  obtain ⟨present, rfl, rfl⟩ | ⟨absent, put, rfl⟩ := kept
  · rw [present]
    exact enters_pure
  · rw [absent]
    exact (enters_writeCounted put).bind_silent enters_pure

theorem Keeps.writes_eq (keeps : store.Keeps disk path id store' disk') :
    store'.writes = store.writes + (store.keepEntries disk id disk').length := by
  obtain ⟨bytes, -, rfl, ⟨present, rfl, -⟩ | ⟨absent, -, rfl⟩⟩ := keeps
  · rw [keepEntries, if_pos present, List.length_nil, Nat.add_zero]
  · rw [keepEntries, if_neg (Bool.eq_false_iff.1 absent), List.length_singleton]

/-- Recording an entry writes the index, once. -/
theorem Records.enters (records : store.Records disk name entry store' disk') :
    Enters (record name entry) store disk () store' disk' (store.recordEntries name entry disk') := by
  rw [record, recordEntries]
  refine enters_get.silent_bind ?_
  obtain ⟨recorded, rfl, rfl⟩ | ⟨other, put, rfl⟩ := records
  · rw [if_pos recorded, if_pos recorded]
    exact enters_pure
  · rw [if_neg other, if_neg other]
    exact enters_set.silent_bind (enters_writeCounted put)

theorem Records.writes_eq (records : store.Records disk name entry store' disk') :
    store'.writes = store.writes + (store.recordEntries name entry disk').length := by
  obtain ⟨recorded, rfl, -⟩ | ⟨other, -, rfl⟩ := records
  · rw [recordEntries, if_pos recorded, List.length_nil, Nat.add_zero]
  · rw [recordEntries, if_neg other, List.length_singleton]

/-- The stores and disks that a backup goes through: after the binary, and after the symbols. -/
def BacksVia (store : SnapshotStore) (disk : Disk) (name : String) (files : ModuleFiles)
    (entry : SnapshotEntry) (store₁ : SnapshotStore) (disk₁ : Disk) (store₂ : SnapshotStore) (disk₂ : Disk)
    (store' : SnapshotStore) (disk' : Disk) : Prop :=
  store.Keeps disk files.binary entry.binary store₁ disk₁ ∧
    ((entry.symbols = none ∧ disk₁.isFile files.symbols = false ∧ store₁ = store₂ ∧ disk₁ = disk₂) ∨
      ∃ id, entry.symbols = some id ∧ disk₁.isFile files.symbols = true ∧
      store₁.Keeps disk₁ files.symbols id store₂ disk₂) ∧
    store₂.Records disk₂ name entry store' disk'

/-- The entries that a backup makes on its way: for the binary, for the symbols if there are any, and for the
index. -/
def backupEntries (store : SnapshotStore) (disk : Disk) (name : String) (entry : SnapshotEntry)
    (store₁ : SnapshotStore) (disk₁ : Disk) (store₂ : SnapshotStore)
    (disk₂ disk' : Disk) : List (Path × Disk) :=
  store.keepEntries disk entry.binary disk₁ ++ (entry.symbols.elim [] fun id => store₁.keepEntries disk₁ id disk₂) ++
    store₂.recordEntries name entry disk'

/-- A backup makes the entries of its objects and then that of the index. -/
theorem BacksVia.enters (via : store.BacksVia disk name files entry store₁ disk₁ store₂ disk₂ store' disk') :
    Enters (backup name files) store disk entry store' disk'
      (store.backupEntries disk name entry store₁ disk₁ store₂ disk₂ disk') := by
  obtain ⟨id, symbols?⟩ := entry
  obtain ⟨binary, symbols, recorded⟩ := via
  rw [backup, backupEntries, List.append_assoc]
  refine binary.enters.bind ((enters_isFile _).silent_bind ?_)
  obtain ⟨none, absent, rfl, rfl⟩ | ⟨id', some, present, kept⟩ := symbols
  · cases none
    rw [absent]
    exact enters_pure.silent_bind (recorded.enters.bind_silent enters_pure)
  · cases some
    rw [present]
    exact kept.enters.map.bind (recorded.enters.bind_silent enters_pure)

theorem mem_keepEntries {made : Path × Disk} :
    made ∈ store.keepEntries disk id disk' ↔ disk.isFile (store.objectPath id) = false ∧
    made = (store.objectPath id, disk') := by
  rw [keepEntries]
  cases disk.isFile (store.objectPath id) <;> simp

theorem mem_recordEntries {made : Path × Disk} : made ∈ store.recordEntries name entry disk' ↔
    store.entryOf? name ≠ some entry ∧ made = (indexPath store.root, disk') := by
  rw [recordEntries]
  split <;> simp_all

theorem mem_backupEntries {made : Path × Disk} :
    made ∈ store.backupEntries disk name entry store₁ disk₁ store₂ disk₂ disk' ↔
    made ∈ store.keepEntries disk entry.binary disk₁ ∨
      (∃ id ∈ entry.symbols, made ∈ store₁.keepEntries disk₁ id disk₂) ∨
      made ∈ store₂.recordEntries name entry disk' := by
  rw [backupEntries, List.append_assoc, List.mem_append, List.mem_append]
  cases entry.symbols <;> simp

theorem BacksVia.logs (via : store.BacksVia disk name files entry store₁ disk₁ store₂ disk₂ store' disk') :
    Logs (backup name files) store disk entry store' disk' fun entry => entry.2 = disk₁ ∨ entry.2 = disk₂ ∨
    entry.2 = disk' := by
  refine via.enters.logs fun made member => ?_
  obtain binary | ⟨id, -, symbols⟩ | recorded := mem_backupEntries.1 member
  · exact Or.inl (congrArg Prod.snd (mem_keepEntries.1 binary).2)
  · exact Or.inr (Or.inl (congrArg Prod.snd (mem_keepEntries.1 symbols).2))
  · exact Or.inr (Or.inr (congrArg Prod.snd (mem_recordEntries.1 recorded).2))

end SnapshotStore

end Faultline
