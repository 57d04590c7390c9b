import Faultline.Proofs.Project.Failures
import Faultline.Proofs.Storage.Backups

namespace Faultline

variable {fingerprint : String} {fields : FieldTypes} {next : UInt32} {store store' : SnapshotStore}
  {disk start between disk' later : Disk} {target : PassTarget} {targets : List PassTarget} {loaded : LoadedTarget}
  {all : List LoadedTarget} {outcomes : List PassOutcome} {failure : PassError}

/-! What the files of a target hold. -/

namespace Disk

variable {files : ModuleFiles} {path : Path} {bytes bytes' : Bytes} {module : Module}

/-- The paths of both files lead back up, if at all, through folders that exist. -/
structure Anchored (disk : Disk) (files : ModuleFiles) : Prop where
  binary : disk.Settled files.binary
  symbols : disk.Settled files.symbols

theorem Changes.contents_eq {touched : Place → Prop} (changes : Changes touched disk disk') (sound : disk.Sound)
    (settled : disk.Settled path) (untouched : ¬ touched (disk.placeOf path)) :
    disk'.contents path = disk.contents path := by
  refine Option.ext fun bytes => ?_
  rw [contents_eq_some, contents_eq_some]
  exact changes.read_iff sound settled untouched

theorem Spares.pair_eq (spares : disk.Spares files disk') (sound : disk.Sound) (anchored : disk.Anchored files) :
    disk'.pair files = disk.pair files := by
  have binary := Changes.contents_eq spares sound anchored.binary (not_not_intro (Or.inl rfl))
  have symbols := Changes.contents_eq spares sound anchored.symbols (not_not_intro (Or.inr rfl))
  rw [pair, pair, binary, symbols]

/-- Whether a target loads depends on its two files only. -/
theorem Loads.of_pair (loads : disk.Loads files module) (same : disk'.pair files = disk.pair files) :
    disk'.Loads files module := by
  obtain ⟨binary, symbols⟩ := Prod.mk.inj same
  have read {path : Path} {bytes : Bytes} (same : disk'.contents path = disk.contents path)
      (found : disk.read path = .ok bytes) : disk'.read path = .ok bytes := by
    rw [← contents_eq_some] at found ⊢
    exact same.trans found
  cases loads with
  | bare found decoded absent =>
    rw [← contents_eq_none] at absent
    exact .bare (read binary found) decoded (contents_eq_none.1 (symbols.trans absent))
  | located found decoded present parsed applied =>
    exact .located (read binary found) decoded (read symbols present) parsed applied

/-- The target's module carries the stamp of another fingerprint. -/
def Stale (disk : Disk) (fingerprint : String) (target : PassTarget) : Prop :=
  ∃ module found, disk.Loads target.files module ∧ module.stampOf fingerprint = .stale found

/-- An object with these contents is in the store. -/
def Keeps (disk : Disk) (root : Path) (bytes : Bytes) : Prop :=
  disk.file? (disk.placeOf root ++ ["objects", objectId bytes]) = some bytes

end Disk

namespace SnapshotStore

variable {name : String} {files : ModuleFiles}

/-- What the backup of a module holds: the binary, and the symbols unless there were none. -/
inductive Backup (store : SnapshotStore) (disk : Disk) (name : String) : Option Bytes × Option Bytes → Prop
  | both {bytes bytes' : Bytes} (recorded : store.entryOf? name = some ⟨objectId bytes, some (objectId bytes')⟩)
      (binary : disk.Keeps store.root bytes) (symbols : disk.Keeps store.root bytes') :
      Backup store disk name (some bytes, some bytes')
  | alone {bytes : Bytes} (recorded : store.entryOf? name = some ⟨objectId bytes, none⟩)
      (binary : disk.Keeps store.root bytes) : Backup store disk name (some bytes, none)

/-- The store holds one backup for a name. -/
theorem Backup.unique {held held' : Option Bytes × Option Bytes} (backup : store.Backup disk name held)
    (backup' : store.Backup disk name held') : held = held' := by
  have same {bytes bytes' : Bytes} (ids : objectId bytes = objectId bytes') (keeps : disk.Keeps store.root bytes)
      (keeps' : disk.Keeps store.root bytes') : bytes = bytes' := by
    rw [Disk.Keeps, ids] at keeps
    exact Option.some.inj (keeps.symm.trans keeps')
  cases backup with
  | both recorded binary symbols =>
    cases backup' with
    | both recorded' binary' symbols' =>
      obtain ⟨ids, ids'⟩ := SnapshotEntry.mk.inj (Option.some.inj (recorded.symm.trans recorded'))
      rw [same ids binary binary', same (Option.some.inj ids') symbols symbols']
    | alone recorded' binary' =>
      cases (SnapshotEntry.mk.inj (Option.some.inj (recorded.symm.trans recorded'))).2
  | alone recorded binary =>
    cases backup' with
    | both recorded' binary' symbols' =>
      cases (SnapshotEntry.mk.inj (Option.some.inj (recorded.symm.trans recorded'))).2
    | alone recorded' binary' =>
      rw [same (SnapshotEntry.mk.inj (Option.some.inj (recorded.symm.trans recorded'))).1 binary binary']

/-- Symbols that a restore removes, or does not find, are not there as long as nothing touches them. -/
theorem absent_of_gone {bytes : Bytes} {mid : Disk} (sound : start.Sound) (anchored : start.Anchored files)
    (before : start.Spares files disk) (own : start.placeOf files.binary ≠ start.placeOf files.symbols)
    (first : disk.Writes files.binary bytes mid)
    (gone : mid.remove files.symbols = .ok between ∨ mid.isFile files.symbols = false ∧ mid = between)
    (after : between.Spares files later) : later.isFile files.symbols = false := by
  rcases gone with removed | ⟨refused, rfl⟩
  · have changes := Disk.Changes.remove removed
    rw [Bool.eq_false_iff, Ne, Disk.isFile_iff]
    rintro ⟨bytes, found⟩
    have file := (Disk.read_eq_ok.1 found).2
    rw [Disk.Changes.placeOf after, Disk.Changes.files after _ (not_not_intro (Or.inr rfl)), changes.placeOf,
      Disk.file?_of_removed removed] at file
    cases file
  · rw [← Disk.contents_eq_none] at refused ⊢
    have whole :
        Disk.Changes (fun place => ¬ start.Holds files place ∨ place = disk.placeOf files.binary) start mid :=
      (before.mono fun _ => Or.inl).trans (first.changes.mono fun _ => Or.inr)
    have further :
        Disk.Changes (fun place => ¬ start.Holds files place ∨ place = disk.placeOf files.binary) start later := by
      refine whole.trans (after.mono fun place elsewhere => Or.inl ?_)
      rwa [whole.holds] at elsewhere
    have elsewhere : ¬ (¬ start.Holds files (start.placeOf files.symbols) ∨
        start.placeOf files.symbols = disk.placeOf files.binary) := by
      rw [Disk.Changes.placeOf before]
      exact not_or.2 ⟨not_not_intro (Or.inr rfl), own.symm⟩
    rw [further.contents_eq sound anchored.symbols elsewhere,
      ← whole.contents_eq sound anchored.symbols elsewhere, refused]

/-- After a restore the files are exactly as in the backup, and they stay so while nothing touches them. -/
theorem Restores.backup (restores : store.Restores name files disk between) (sound : start.Sound)
    (anchored : start.Anchored files) (before : start.Spares files disk)
    (objects : ∀ place, start.Stored store.root place → disk.file? place = start.file? place)
    (own : start.placeOf files.binary ≠ start.placeOf files.symbols)
    (outside : ∀ place, start.Holds files place → ¬ start.Stored store.root place)
    (after : between.Spares files later) :
    store.Backup start name (later.pair files) := by
  have keeps {between : Disk} {bytes : Bytes} {id : String} (changes : Disk.Changes (disk.Holds files) disk between)
      (object : between.Object store id bytes) : objectId bytes = id ∧ start.Keeps store.root bytes := by
    obtain rfl := object.2
    refine ⟨rfl, ?_⟩
    have file := (Disk.read_eq_ok.1 object.1).2
    have stored := start.stored_object store.root (objectId bytes)
    rwa [placeOf_objectPath _ _ (isName_objectId bytes), changes.placeOf, Disk.Changes.placeOf before,
      changes.files _ (fun held => outside _ (by rwa [Disk.Changes.holds before] at held) stored),
      objects _ stored] at file
  have apart : disk.placeOf files.binary ≠ disk.placeOf files.symbols := by
    rwa [Disk.Changes.placeOf before, Disk.Changes.placeOf before]
  cases restores with
  | @both id id' bytes bytes' mid recorded binary first symbols second =>
    obtain ⟨rfl, here⟩ := keeps (.refl _) binary
    obtain ⟨rfl, there⟩ := keeps (first.changes.mono fun _ => Or.inl) symbols
    have contains : between.Contains files bytes bytes' := by
      refine ⟨second.changes.read ?_ first.read, second.read⟩
      rwa [first.changes.placeOf, first.changes.placeOf]
    rw [Disk.pair_eq_some.2 (contains.spared after)]
    exact .both recorded here there
  | @alone id bytes mid recorded binary first gone =>
    obtain ⟨rfl, here⟩ := keeps (.refl _) binary
    have changes : Disk.Changes (· = mid.placeOf files.symbols) mid between := by
      rcases gone with removed | ⟨-, rfl⟩
      · exact .remove removed
      · exact .refl _
    have stands : between.read files.binary = .ok bytes := by
      refine changes.read ?_ first.read
      rwa [first.changes.placeOf, first.changes.placeOf]
    have absent := absent_of_gone sound anchored before own first gone after
    have held : later.contents files.binary = some bytes :=
      Disk.contents_eq_some.2 (Disk.Changes.read after (not_not_intro (Or.inl rfl)) stands)
    rw [Disk.pair, held, Disk.contents_eq_none.2 absent]
    exact .alone recorded here

end SnapshotStore

/-! What a pass has made of its targets when it fails. -/

/-- Different targets, none of which is a file of the store, and whose paths lead where they seem to. -/
structure Disk.Ordered (disk : Disk) (root : Path) (targets : List PassTarget) : Prop where
  sound : disk.Sound
  anchored : ∀ target ∈ targets, disk.Anchored target.files
  placed : disk.Placed root targets

theorem Disk.Ordered.sublist {root : Path} {chosen : List PassTarget} (ordered : disk.Ordered root targets)
    (among : chosen.Sublist targets) : disk.Ordered root chosen where
  sound := ordered.sound
  anchored := fun target member => ordered.anchored target (among.subset member)
  placed := ordered.placed.sublist among

theorem Disk.Ordered.tail {root : Path} (ordered : disk.Ordered root (target :: targets)) :
    disk.Ordered root targets :=
  ordered.sublist (List.sublist_cons_self _ _)

/-- The module was stale, and the files are exactly its backup. -/
def PassTarget.Restored (target : PassTarget) (fingerprint : String) (store : SnapshotStore)
    (disk disk' : Disk) : Prop :=
  disk.Stale fingerprint target ∧ store.Backup disk target.name (disk'.pair target.files)

/-- The files of a loaded target are as the pass found them, or restored. -/
inductive LoadedTarget.Stands (loaded : LoadedTarget) (fingerprint : String) (store : SnapshotStore)
    (disk later : Disk) : Prop
  | found (loads : disk.Loads loaded.target.files loaded.module)
      (unstamped : loaded.current = false → loaded.module.stampOf fingerprint = .unstamped)
      (same : later.pair loaded.target.files = disk.pair loaded.target.files)
  | restored (restored : loaded.target.Restored fingerprint store disk later)
      (loads : later.Loads loaded.target.files loaded.module)

theorem LoadedTarget.Stands.remains (stands : loaded.Stands fingerprint store disk later) :
    later.pair loaded.target.files = disk.pair loaded.target.files ∨
    loaded.target.Restored fingerprint store disk later := by
  cases stands with
  | found _ _ same => exact Or.inl same
  | restored restored _ => exact Or.inr restored

theorem LoadedTarget.Stands.loads (stands : loaded.Stands fingerprint store disk later) :
    later.Loads loaded.target.files loaded.module := by
  cases stands with
  | found loads _ same => exact loads.of_pair same
  | restored _ loads => exact loads

/-- A loaded target stands while its files and the objects of the store are not written. -/
theorem PassTarget.Starts.stands (starts : target.Starts fingerprint store disk loaded between)
    (ordered : start.Ordered store.root (target :: targets)) (before : start.Spares target.files disk)
    (objects : ∀ place, start.Stored store.root place → disk.file? place = start.file? place)
    (after : between.Spares target.files later) : loaded.Stands fingerprint store start later := by
  have sound := ordered.sound
  have anchored := ordered.anchored _ List.mem_cons_self
  have earlier := before.pair_eq sound anchored
  cases starts with
  | current loads stamp =>
    exact .found (loads.of_pair earlier.symm) (fun other => by cases other)
      ((before.trans after).pair_eq sound anchored)
  | unstamped loads stamp =>
    exact .found (loads.of_pair earlier.symm) (fun _ => stamp) ((before.trans after).pair_eq sound anchored)
  | @stale old module found _ loads stamp restores reloads =>
    have restores := (SnapshotStore.does_restore restores).1
    have holds (later : Disk) (after : between.Spares target.files later) :=
      restores.backup sound anchored before objects (ordered.placed.own _ List.mem_cons_self)
        (ordered.placed.outside _ List.mem_cons_self) after
    have backup := holds later after
    have same := backup.unique (holds between (.refl _))
    exact .restored ⟨⟨old, found, loads.of_pair earlier.symm, stamp⟩, backup⟩ (reloads.of_pair same)

/-- When all targets are loaded, each is as it was or restored, and it stays so while nothing touches it. -/
theorem StartsAll.stands {touched : Place → Prop} (starts : StartsAll fingerprint store targets disk all disk')
    (ordered : start.Ordered store.root targets) (before : Disk.Changes touched start disk)
    (elsewhere : ∀ target ∈ targets, ∀ place, start.Holds target.files place → ¬ touched place)
    (outside : ∀ place, start.Stored store.root place → ¬ touched place) :
    ∀ each ∈ all, ∀ later, disk'.Spares each.target.files later → each.Stands fingerprint store start later := by
  induction starts generalizing touched with
  | nil => exact fun _ member => (List.not_mem_nil member).elim
  | @cons target targets loaded rest disk between disk' first further ih =>
    have placed := ordered.placed
    obtain ⟨untouched, elsewhere⟩ := List.forall_mem_cons.1 elsewhere
    have changes : Disk.Changes (start.Holds target.files) disk between := before.holds target.files ▸ first.changes
    refine List.forall_mem_cons.2 ⟨fun later spares => ?_, ?_⟩
    · rw [first.target_eq] at spares
      refine first.stands ordered (before.spares untouched)
        (fun place stored => before.files _ (outside place stored)) (Disk.Spares.trans ?_ spares)
      refine further.changes.spares fun place held ⟨other, member, held'⟩ => ?_
      rw [first.changes.holds, before.holds] at held held'
      exact placed.head_apart held other member held'
    · refine ih ordered.tail ((before.mono fun _ => Or.inl).trans (changes.mono fun _ => Or.inr)) ?_ ?_
      · rintro other member place held (already | held')
        · exact elsewhere other member place held already
        · exact placed.head_apart held' other member held
      · rintro place stored (already | held)
        · exact outside place stored already
        · exact placed.outside _ List.mem_cons_self place held stored

/-- The module that a binary and the text of its symbols make up. -/
def Module.MadeOf (module : Module) (bytes bytes' : Bytes) : Prop :=
  ∃ bare text symbols, Module.decode bytes = .ok bare ∧ bytes' = textBytes text ∧
    Symbols.ofText? text = some symbols ∧ symbols.applyTo bare = (module, .ok ())

/-- A module that loads is made of the bytes of its two files. -/
theorem Disk.Loads.madeOf {files : ModuleFiles} {module : Module} {bytes bytes' : Bytes}
    (loads : disk.Loads files module) (contains : disk.Contains files bytes bytes') : module.MadeOf bytes bytes' := by
  cases loads with
  | bare _ _ absent =>
    rw [isFile_iff.2 ⟨_, contains.symbols⟩] at absent
    cases absent
  | located found decoded present parsed applied =>
    obtain rfl := Except.ok.inj (found.symm.trans contains.binary)
    exact ⟨_, _, _, decoded, Except.ok.inj (contains.symbols.symm.trans present), parsed, applied⟩

/-- The files are written for the module, instrumented and stamped. The store has what they held before that:
the backup, if the module was stale, and else what the pass found. -/
def PassTarget.Rewritten (target : PassTarget) (fingerprint : String) (store : SnapshotStore) (disk : Disk)
    (store' : SnapshotStore) (disk' : Disk) : Prop :=
  ∃ (bytes bytes' : Bytes) (module done : Module) (fields : FieldTypes) (next last : UInt32),
    module.MadeOf bytes bytes' ∧ module.instrumented fields next = .ok (done, last) ∧
    disk'.pair target.files = (some (done.stamp fingerprint).encode,
      some (textBytes (done.stamp fingerprint).symbols.text)) ∧
    store'.Secures disk' target.name bytes bytes' ∧
    (¬ disk.Stale fingerprint target ∧ disk.pair target.files = (some bytes, some bytes') ∨
      disk.Stale fingerprint target ∧ store.Backup disk target.name (some bytes, some bytes'))

/-- What the files of the targets and the objects of the store hold. -/
def Disk.involved (disk : Disk) (root : Path) (targets : List PassTarget) : Set Bytes :=
  {bytes | (∃ target ∈ targets, disk.read target.files.binary = .ok bytes ∨
    disk.read target.files.symbols = .ok bytes) ∨
    ∃ id, disk.file? (disk.placeOf root ++ ["objects", id]) = some bytes}

/-- Every object has the contents that it is named for. -/
def Disk.Honest (disk : Disk) (root : Path) : Prop :=
  ∀ id bytes, disk.file? (disk.placeOf root ++ ["objects", id]) = some bytes → objectId bytes = id

theorem Disk.Honest.genuine {contents : Set Bytes} (honest : disk.Honest store.root)
    (digests : Set.InjOn objectId contents)
    (objects : ∀ id bytes, disk.file? (disk.placeOf store.root ++ ["objects", id]) = some bytes → bytes ∈ contents) :
    store.Genuine disk contents :=
  fun _ held found file => digests (objects _ _ file) held (honest _ found file)

end Faultline
