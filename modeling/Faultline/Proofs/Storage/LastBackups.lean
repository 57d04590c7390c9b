import Mathlib.Logic.Relation
import Faultline.Proofs.Storage.Shelves

namespace Faultline

variable {store store' : SnapshotStore} {disk disk' : Disk} {files : ModuleFiles} {root : Path}
  {place : Place} {name : String} {bytes : Bytes} {symbols : Option Bytes} {entry : SnapshotEntry}
  {contents : Set Bytes}

/-! Restores of what is recalled. -/

/-- An operation failed on a module's files or their folders. -/
def SnapshotError.Concerns (files : ModuleFiles) : SnapshotError → Prop
  | .io failure | .write failure =>
    failure.path ∈ [files.binary.folder, files.binary, files.symbols.folder, files.symbols]
  | _ => False

namespace SnapshotStore

/-- Where the objects can be read, a restore fails on the module's files alone. -/
theorem concerns_of_fails_restore {failure : SnapshotError} {id : String} {id? : Option String}
    (recorded : store.entryOf? name = some ⟨id, id?⟩) (binary : disk.Object store id bytes)
    (held : ∀ between, disk.Writes files.binary bytes between → ∀ id' ∈ id?, ∃ bytes',
      between.Object store id' bytes')
    (fails : Fails (store.restore name files) store disk failure store' disk') : failure.Concerns files := by
  rw [restore, recorded] at fails
  obtain fails | ⟨found, _, _, reading, fails⟩ := fails_bind.1 fails
  · exact absurd fails (does_object.2 ⟨binary, rfl, rfl⟩).not_fails
  obtain ⟨found, rfl, rfl⟩ := does_object.1 reading
  obtain rfl := binary.unique found
  obtain fails | ⟨_, _, between, writing, fails⟩ := fails_bind.1 fails
  · obtain ⟨fault, refused, rfl⟩ := fails_adapt.1 fails
    obtain same | same := refused.writeFile <;> simp [SnapshotError.Concerns, same]
  obtain ⟨first, rfl⟩ := does_writeFile.1 (does_adapt.1 writing)
  cases id? with
  | some id' =>
    obtain ⟨bytes', object⟩ := held between first id' rfl
    obtain fails | ⟨_, _, _, _, fails⟩ := fails_bind.1 fails
    · exact absurd fails (does_object.2 ⟨object, rfl, rfl⟩).not_fails
    · obtain ⟨fault, refused, rfl⟩ := fails_adapt.1 fails
      obtain same | same := refused.writeFile <;> simp [SnapshotError.Concerns, same]
  | none =>
    obtain fails | ⟨outcome, _, _, removing, fails⟩ := fails_bind.1 fails
    · exact absurd fails not_fails_removeFile
    obtain ⟨ended, -, -⟩ := does_removeFile_iff.1 removing
    split at fails
    · exact absurd fails not_fails_pure
    · exact absurd fails not_fails_pure
    · obtain ⟨rfl, -⟩ := fails_throw.1 fails
      cases removed : (between.keep (between.remove files.symbols)).1 with
      | ok done =>
        rw [removed] at ended
        cases ended
      | error fault =>
        rw [removed] at ended
        cases ended
        simp [SnapshotError.Concerns]

namespace Recalls

/-- What is recalled is restored wherever files can be written. -/
theorem restores (recalls : store.Recalls disk name bytes symbols) (binary : disk.Writable files.binary)
    (held : disk.Writable files.symbols)
    (outside : ∀ place, disk.Holds files place → ¬ disk.Stored store.root place) :
    ∃ disk', Does (store.restore name files) store disk () store disk' := by
  obtain ⟨between, first⟩ := binary.writes bytes
  have later := held.later binary first
  exact recalls.does_restore first outside (fun bytes' _ => later.writes bytes') fun _ => later.read

theorem concerns_of_fails {failure : SnapshotError} (recalls : store.Recalls disk name bytes symbols)
    (outside : ∀ place, disk.Holds files place → ¬ disk.Stored store.root place)
    (fails : Fails (store.restore name files) store disk failure store' disk') : failure.Concerns files := by
  refine concerns_of_fails_restore recalls.recorded recalls.binary (fun between first id member => ?_) fails
  obtain ⟨bytes', held, rfl⟩ := Option.map_eq_some_iff.1 member
  exact ⟨bytes', (recalls.written outside first).symbols bytes' held⟩

end Recalls

end SnapshotStore

/-- A store on a disk, with what each module's files held at its last backup. -/
structure Archive where
  store : SnapshotStore
  disk : Disk
  last : String → Option (Bytes × Option Bytes)

namespace Archive

open SnapshotStore

variable {archive later : Archive}

/-- What happens to an archive: its store backs up and restores modules and is opened again, and files outside
of the store come, go and change. All that is ever backed up is one of the contents. -/
inductive Step (contents : Set Bytes) (archive : Archive) : Archive → Prop
  | backup {name : String} {files : ModuleFiles} {entry : SnapshotEntry} {store' : SnapshotStore}
      {disk' : Disk} {bytes : Bytes}
      {symbols : Option Bytes} (does : Does (backup name files) archive.store archive.disk entry store' disk')
      (outside : ∀ place, archive.disk.Holds files place → ¬ archive.disk.Stored archive.store.root place)
      (pair : disk'.pair files = (some bytes, symbols)) (held : together bytes symbols ⊆ contents) :
      Step contents archive ⟨store', disk', Function.update archive.last name (some (bytes, symbols))⟩
  | restore {name : String} {files : ModuleFiles} {store' : SnapshotStore} {disk' : Disk}
      (does : Does (archive.store.restore name files) archive.store archive.disk () store' disk')
      (outside : ∀ place, archive.disk.Holds files place → ¬ archive.disk.Stored archive.store.root place) :
      Step contents archive ⟨store', disk', archive.last⟩
  | missing {name : String} {files : ModuleFiles} {store' : SnapshotStore} {disk' : Disk}
      (fails : Fails (archive.store.restore name files) archive.store archive.disk
        (.missingBackup name) store' disk') :
      Step contents archive ⟨store', disk', archive.last⟩
  | reopen {store' : SnapshotStore} (opens : archive.disk.Opens archive.store.root store') :
      Step contents archive ⟨store', archive.disk, archive.last⟩
  | elsewhere {disk' : Disk} (leaves : archive.disk.Leaves archive.store.root disk') :
      Step contents archive ⟨archive.store, disk', archive.last⟩

def Run (contents : Set Bytes) : Archive → Archive → Prop := Relation.ReflTransGen (Step contents)

/-- A store has just been opened where none of its files are, and nothing has been backed up. -/
structure Fresh (archive : Archive) (root : Path) : Prop where
  opens : archive.disk.Opens root archive.store
  vacant : ∀ place, archive.disk.Stored root place → archive.disk.file? place = none
  last : archive.last = fun _ => none

/-- What holds of an archive at any time. The index is on the disk, unless it has never been written. -/
structure Intact (contents : Set Bytes) (archive : Archive) : Prop where
  indexed : archive.store.OnDisk archive.disk ∨ archive.store.index = .empty ∧
    archive.disk.file? (archive.disk.placeOf archive.store.root ++ ["index.json"]) = none
  shelved : archive.store.Shelved archive.disk contents
  recalls : ∀ name bytes symbols, archive.last name = some (bytes, symbols) →
    archive.store.Recalls archive.disk name bytes symbols

/-- A fresh store holds no backup, so nothing is missing from it. -/
theorem Fresh.intact (fresh : archive.Fresh root) : archive.Intact contents := by
  obtain ⟨index, same, opened⟩ := Disk.opens_iff.1 fresh.opens
  have root : archive.store.root = root := by rw [same]
  have vacant := root ▸ fresh.vacant
  refine ⟨Or.inr ⟨?_, vacant _ (archive.disk.stored_index _)⟩, fun place bytes below file => ?_,
    fun name bytes symbols backed => ?_⟩
  · obtain ⟨text, found, -⟩ | ⟨-, rfl⟩ := opened
    · have file := (Disk.read_eq_ok.1 found).2
      rw [placeOf_indexPath, ← root, vacant _ (archive.disk.stored_index _)] at file
      cases file
    · rw [same]
  · rw [vacant place (Or.inr below)] at file
    cases file
  · rw [fresh.last] at backed
    cases backed

/-- Opened again, the store has the index that it had. -/
theorem Intact.reopened (intact : archive.Intact contents) (opens : archive.disk.Opens archive.store.root store') :
    store' = { archive.store with writes := 0 } := by
  obtain ⟨index, rfl, opened⟩ := Disk.opens_iff.1 opens
  rw [SnapshotStore.mk.injEq]
  refine ⟨rfl, ?_, rfl⟩
  obtain ⟨text, found, parsed⟩ | ⟨empty, vacant⟩ := intact.indexed
  · obtain ⟨text', found', parsed'⟩ | ⟨absent, -⟩ := opened
    · obtain rfl := textBytes_inj.1 (Except.ok.inj (found'.symm.trans found))
      exact Option.some.inj (parsed'.symm.trans parsed)
    · rw [absent] at found
      cases found
  · obtain ⟨text, found, -⟩ | ⟨-, rfl⟩ := opened
    · have file := (Disk.read_eq_ok.1 found).2
      rw [placeOf_indexPath, vacant] at file
      cases file
    · exact empty.symm

/-- Changes outside the store leave every last backup intact. -/
theorem Intact.leaves (intact : archive.Intact contents) (leaves : archive.disk.Leaves archive.store.root disk') :
    Intact contents ⟨archive.store, disk', archive.last⟩ := by
  refine ⟨?_, fun place bytes below file => ?_, fun name bytes symbols backed => ?_⟩
  · refine intact.indexed.imp leaves.onDisk (And.imp_right fun vacant => ?_)
    rw [leaves.placeOf, leaves.files _ (archive.disk.stored_index _), vacant]
  · rw [leaves.placeOf] at below
    rw [leaves.files place (Or.inr below)] at file
    obtain ⟨held, same, object⟩ := intact.shelved place bytes below file
    rw [leaves.placeOf]
    exact ⟨held, same, leaves.object object⟩
  · obtain ⟨recorded, binary, held⟩ := intact.recalls name bytes symbols backed
    exact ⟨recorded, leaves.object binary, fun bytes' member => leaves.object (held bytes' member)⟩

/-- A backup becomes the last one of its name, and leaves those of the other names intact. -/
theorem Intact.backs (intact : archive.Intact contents) (digests : Set.InjOn objectId contents)
    (backs : archive.store.Backs archive.disk name files entry store' disk')
    (outside : ∀ place, archive.disk.Holds files place → ¬ archive.disk.Stored archive.store.root place)
    (pair : disk'.pair files = (some bytes, symbols)) (held : together bytes symbols ⊆ contents) :
    Intact contents ⟨store', disk', Function.update archive.last name (some (bytes, symbols))⟩ := by
  refine ⟨Or.inl (backs.onDisk_of_indexed fun entry recorded => ?_),
    backs.shelved intact.shelved outside pair held, ?_⟩
  · refine intact.indexed.resolve_right fun ⟨empty, _⟩ => ?_
    rw [entryOf?, empty] at recorded
    cases recorded
  · intro other bytes' symbols' (backed : Function.update archive.last name _ other = _)
    by_cases same : other = name
    · rw [same, Function.update_self, Option.some.injEq, Prod.mk.injEq] at backed
      obtain ⟨rfl, rfl⟩ := backed
      rw [same]
      exact (backs.recalls (intact.shelved.genuine digests) digests pair (held (Or.inl rfl))
        (fun _ member => held (Or.inr member)) outside).1
    · rw [Function.update_of_ne same] at backed
      obtain ⟨recorded, binary, objects⟩ := intact.recalls other bytes' symbols' backed
      exact ⟨(backs.other same).trans recorded, backs.stays binary, fun content member =>
        backs.stays (objects content member)⟩

/-- Every step keeps the archive intact. -/
theorem Step.intact (step : Step contents archive later) (intact : archive.Intact contents)
    (digests : Set.InjOn objectId contents) :
    later.Intact contents := by
  cases step with
  | backup does outside pair held => exact intact.backs digests (does_backup.1 does) outside pair held
  | restore does outside =>
    obtain ⟨restores, rfl⟩ := SnapshotStore.does_restore does
    exact intact.leaves (.of_changes restores.changes outside)
  | missing fails =>
    obtain ⟨rfl, rfl⟩ := fails.missing
    exact intact
  | reopen opens =>
    rw [intact.reopened opens]
    refine ⟨intact.indexed, intact.shelved.of_root rfl, fun name bytes symbols backed => ?_⟩
    obtain ⟨recorded, binary, held⟩ := intact.recalls name bytes symbols backed
    exact ⟨recorded, binary, held⟩
  | elsewhere leaves => exact intact.leaves leaves

theorem Run.intact (run : Run contents archive later) (intact : archive.Intact contents)
    (digests : Set.InjOn objectId contents) :
    later.Intact contents := by
  induction run with
  | refl => exact intact
  | tail _ step ih => exact step.intact ih digests

/-- No step moves the store. -/
theorem Step.placeOf_root (step : Step contents archive later) :
    later.disk.placeOf later.store.root = archive.disk.placeOf archive.store.root := by
  cases step with
  | backup does _ _ _ =>
    have backs := does_backup.1 does
    rw [backs.root, backs.changes_stored.placeOf]
  | restore does _ =>
    obtain ⟨restores, rfl⟩ := SnapshotStore.does_restore does
    exact restores.changes.placeOf _
  | missing fails =>
    obtain ⟨rfl, rfl⟩ := fails.missing
    rfl
  | reopen opens =>
    obtain ⟨index, rfl, -⟩ := Disk.opens_iff.1 opens
    rfl
  | elsewhere leaves => exact leaves.placeOf _

/-- No step changes a file among the objects or takes it away. -/
theorem Step.file? (step : Step contents archive later) (intact : archive.Intact contents)
    (below : archive.disk.placeOf archive.store.root ++ ["objects"] <+: place)
    (file : archive.disk.file? place = some bytes) :
    later.disk.file? place = some bytes := by
  cases step with
  | backup does _ _ _ =>
    have backs := does_backup.1 does
    obtain ⟨-, rfl, object⟩ := intact.shelved place bytes below file
    have still := (Disk.read_eq_ok.1 (backs.stays object).1).2
    rwa [placeOf_objectPath _ _ object.isName, backs.root, backs.changes_stored.placeOf] at still
  | restore does outside =>
    obtain ⟨restores, rfl⟩ := SnapshotStore.does_restore does
    rw [restores.changes.files place fun held => outside place held (Or.inr below), file]
  | missing fails =>
    obtain ⟨rfl, rfl⟩ := fails.missing
    exact file
  | reopen opens => exact file
  | elsewhere leaves => rw [leaves.files place (Or.inr below), file]

theorem Run.file? (run : Run contents archive later) (intact : archive.Intact contents)
    (digests : Set.InjOn objectId contents)
    (below : archive.disk.placeOf archive.store.root ++ ["objects"] <+: place)
    (file : archive.disk.file? place = some bytes) :
    later.disk.file? place = some bytes := by
  induction run using Relation.ReflTransGen.head_induction_on with
  | refl => exact file
  | head step _ ih =>
    refine ih (step.intact intact digests) ?_ (step.file? intact below file)
    rwa [step.placeOf_root]

/-- At any time what a module's files held at its last backup can be brought back, wherever its files can be
written, and a restore writes nothing else. Two paths that lead to one place can hold but the same. Objects
stay for good. A backup writes nothing if and only if all of it is there already; what it writes is the index
and new objects, each of them once. -/
theorem recalls_last_backup (digests : Set.InjOn objectId contents) {start : Archive} (fresh : start.Fresh root)
    (run : Run contents start archive) :
    (∀ name bytes symbols files, archive.last name = some (bytes, symbols) →
      (∀ place, archive.disk.Holds files place → ¬ archive.disk.Stored archive.store.root place) →
      (archive.disk.Writable files.binary → archive.disk.Writable files.symbols →
        ∃ disk', Does (archive.store.restore name files) archive.store archive.disk () archive.store disk') ∧
      (∀ failure store' disk',
        Fails (archive.store.restore name files) archive.store archive.disk failure store' disk' →
        failure.Concerns files) ∧
      ∀ store' disk', Does (archive.store.restore name files) archive.store archive.disk () store' disk' →
        ((archive.disk.placeOf files.binary = archive.disk.placeOf files.symbols → symbols = some bytes) →
          disk'.pair files = (some bytes, symbols)) ∧
        Disk.Changes (archive.disk.Holds files) archive.disk disk' ∧
        Logs (archive.store.restore name files) archive.store archive.disk () store' disk' (Paired files disk')) ∧
    (∀ later, Run contents archive later → ∀ place bytes,
      archive.disk.placeOf archive.store.root ++ ["objects"] <+: place →
      archive.disk.file? place = some bytes → later.disk.file? place = some bytes) ∧
    ∀ name files entry store' disk' bytes symbols,
      Does (backup name files) archive.store archive.disk entry store' disk' →
      (∀ place, archive.disk.Holds files place → ¬ archive.disk.Stored archive.store.root place) →
      disk'.pair files = (some bytes, symbols) → together bytes symbols ⊆ contents →
      ∃ entries, Enters (backup name files) archive.store archive.disk entry store' disk' entries ∧
        store'.writes = archive.store.writes + entries.length ∧
        (entries = [] ↔ archive.store.Recalls archive.disk name bytes symbols) ∧ (entries.map Prod.fst).Nodup ∧
        ∀ made ∈ entries, made.1 = indexPath archive.store.root ∨ ∃ id,
          (id = entry.binary ∨ entry.symbols = some id) ∧
          made.1 = archive.store.objectPath id ∧ archive.disk.file? (archive.disk.placeOf made.1) = none := by
  have intact : archive.Intact contents := run.intact fresh.intact digests
  refine ⟨fun name bytes symbols files backed outside => ?_, fun later run place bytes => run.file? intact digests,
    fun name files entry store' disk' bytes symbols does outside pair held => ?_⟩
  · have recalls := intact.recalls name bytes symbols backed
    refine ⟨fun binary held => recalls.restores binary held outside, fun _ _ _ fails =>
      recalls.concerns_of_fails outside fails, ?_⟩
    intro store' disk' does
    have restores := (SnapshotStore.does_restore does).1
    exact ⟨fun apart => recalls.pair_of_restores outside apart restores, restores.changes, logs_restore does⟩
  · have backs := does_backup.1 does
    obtain ⟨bytes', symbols', pair', named⟩ := backs.entry_eq outside
    obtain ⟨same, rfl⟩ := Prod.mk.inj (pair'.symm.trans pair)
    obtain rfl := Option.some.inj same
    have recalls :=
      (backs.recalls (intact.shelved.genuine digests) digests pair (held (Or.inl rfl))
        (fun _ member => held (Or.inr member))
      outside).1
    obtain ⟨store₁, disk₁, store₂, disk₂, via⟩ := backs
    refine ⟨_, BacksVia.enters via, BacksVia.writes_eq via,
      ⟨fun nothing => ?_, fun recalls => BacksVia.nil_of_recalls recalls named via⟩,
      BacksVia.nodup_entries via, BacksVia.entries_new via intact.shelved⟩
    obtain ⟨rfl, rfl⟩ := BacksVia.same_of_nil via nothing
    exact recalls

/-! A module is backed up, its binary is written over, and the store is opened again. -/

def letterContents : Set Bytes := together (textBytes "A") (some (textBytes "S"))

def letterStart : Archive := ⟨letterStore, letterDisk, fun _ => none⟩

def letterLast : String → Option (Bytes × Option Bytes) :=
  Function.update (fun _ => none) "A" (some (textBytes "A", some (textBytes "S")))

theorem letterStart_fresh : letterStart.Fresh ⟨"bk"⟩ := by
  refine ⟨Disk.opens_iff.2 ⟨.empty, rfl, Or.inr ⟨by with_unfolding_all decide, rfl⟩⟩, fun place stored => ?_, rfl⟩
  have top : letterDisk.placeOf ⟨"bk"⟩ = ["bk"] := (letterFiles_places rfl).2.2
  have below : ["bk"] <+: place := top ▸ stored.below
  exact Disk.file?_eq_none_of_entries (by decide) below

/-- A backup, an overwritten binary and a reopening: the restore gives the letters back. -/
theorem recalls_last_backup_letters : ∃ archive : Archive, Run letterContents letterStart archive ∧
    archive.disk.read letterFiles.binary = .ok (textBytes "B") ∧
    ∃ disk', Does (archive.store.restore "A" letterFiles) archive.store archive.disk () archive.store disk' ∧
      disk'.pair letterFiles = (some (textBytes "A"), some (textBytes "S")) := by
  obtain ⟨store', disk', does, pair⟩ := letterDisk_backs
  have backs := does_backup.1 does
  have outside : ∀ place, disk'.Holds letterFiles place → ¬ disk'.Stored store'.root place :=
    backs.root ▸ letterFiles_outside backs.changes_stored.workingFolder
  obtain ⟨binary, symbols⟩ := Disk.pair_eq_some.1 pair
  obtain ⟨disk₂, second⟩ := (Disk.Writable.of_read binary).writes (textBytes "B")
  have changes := second.changes
  have top : disk₂.workingFolder = [] := changes.workingFolder.trans backs.changes_stored.workingFolder
  have leaves : disk'.Leaves store'.root disk₂ := .of_changes changes fun place here => outside place (Or.inl here)
  have onDisk : store'.OnDisk disk₂ := leaves.onDisk (backs.onDisk_of_indexed fun _ impossible => by cases impossible)
  have backup : Step letterContents letterStart ⟨store', disk', letterLast⟩ :=
    .backup does (letterFiles_outside rfl) pair subset_rfl
  have change : Step letterContents ⟨store', disk', letterLast⟩ ⟨store', disk₂, letterLast⟩ :=
    .elsewhere leaves
  have reopen : Step letterContents ⟨store', disk₂, letterLast⟩ ⟨{ store' with writes := 0 }, disk₂, letterLast⟩ :=
    .reopen (SnapshotStore.synced_iff.2 (Or.inl onDisk))
  have run : Run letterContents letterStart _ := ((Relation.ReflTransGen.single backup).tail change).tail reopen
  have outside₂ : ∀ place, disk₂.Holds letterFiles place → ¬ disk₂.Stored store'.root place := by
    rw [changes.holds, changes.stored]
    exact outside
  have apart : disk₂.placeOf letterFiles.binary ≠ disk₂.placeOf letterFiles.symbols := by
    rw [(letterFiles_places top).1, (letterFiles_places top).2.1]
    decide
  have found : disk₂.read letterFiles.symbols = .ok (textBytes "S") := by
    rw [changes.placeOf, changes.placeOf] at apart
    exact changes.read apart.symm symbols
  have last : letterLast "A" = some (textBytes "A", some (textBytes "S")) := Function.update_self ..
  obtain ⟨succeeds, -, recalled⟩ :=
    (recalls_last_backup letterDisk_distinct letterStart_fresh run).1 "A" _ _ letterFiles last outside₂
  obtain ⟨later, restored⟩ := succeeds (.of_read second.read) (.of_read found)
  exact ⟨_, run, second.read, later, restored, (recalled _ _ restored).1 fun same => absurd same apart⟩

end Archive

end Faultline
