import Faultline.Proofs.Storage.Recovery

namespace Faultline

variable {store store' store₀ : SnapshotStore} {disk disk' between : Disk} {files : ModuleFiles}
  {name : String} {failure : SnapshotError}

/-- The failure is about the backup: there is none, or one of its objects cannot be read or does not hold what
its name says. -/
def SnapshotError.OfBackup (store : SnapshotStore) (name : String) : SnapshotError → Prop
  | .missingBackup _ | .corrupt _ => True
  | .io failure => ∃ entry id, store.entryOf? name = some entry ∧ (id = entry.binary ∨ entry.symbols = some id) ∧
      failure.path = store.objectPath id
  | _ => False

theorem Disk.Spoilt.not_object {id : String} {bytes : Bytes} (spoilt : disk.Spoilt store id failure) :
    ¬ disk.Object store id bytes := by
  rintro ⟨found, named⟩
  obtain refused | ⟨read, other⟩ := spoilt
  · cases found.symm.trans refused
  · cases found.symm.trans read
    exact other named

/-- An object is still a file after some file has been written. -/
theorem Disk.Object.stays {id : String} {bytes content : Bytes} {path : Path} (object : disk.Object store id bytes)
    (writes : disk.Writes path content between) : between.isFile (store.objectPath id) = true :=
  writes.isFile (Disk.isFile_iff.2 ⟨bytes, object.1⟩)

namespace SnapshotStore

/-- The binary of a backup has been put in place, and then its symbols turn out to be missing or damaged. -/
def HalfRestores (store : SnapshotStore) (name : String) (files : ModuleFiles) (disk : Disk) (failure : SnapshotError)
    (disk' : Disk) : Prop :=
  ∃ entry id bytes, store.entryOf? name = some entry ∧ entry.symbols = some id ∧
    disk.Object store entry.binary bytes ∧
    disk.Writes files.binary bytes disk' ∧ disk'.Spoilt store id failure

theorem HalfRestores.fails (half : store.HalfRestores name files disk failure disk') :
    Fails (store.restore name files) store₀ disk failure store₀ disk' := by
  obtain ⟨entry, id, bytes, recorded, named, object, first, spoilt⟩ := half
  rw [restore, recorded]
  refine fails_bind.2 (Or.inr ⟨bytes, store₀, disk, does_object.2 ⟨object, rfl, rfl⟩, ?_⟩)
  refine fails_bind.2 (Or.inr ⟨(), store₀, disk', does_adapt.2 (does_writeFile.2 ⟨first, rfl⟩), ?_⟩)
  rw [named]
  exact fails_bind.2 (Or.inl (fails_object_iff.2 ⟨spoilt, rfl, rfl⟩))

/-- A restore that fails for its backup leaves the store and the disk as they are, unless the backup has a
sound binary and symbols that are missing or damaged. The binary is then that of the backup, and no other file
has changed. -/
theorem restore_refused (fails : Fails (store.restore name files) store disk failure store' disk')
    (kind : failure.OfBackup store name) :
    store' = store ∧
      ((∀ entry bytes, store.entryOf? name = some entry → ¬ disk.Object store entry.binary bytes) ∧ disk' = disk ∨
        store.HalfRestores name files disk failure disk' ∧
        Disk.Changes (· = disk.placeOf files.binary) disk disk') := by
  unfold restore at fails
  split at fails
  · rename_i none
    obtain ⟨-, rfl, rfl⟩ := fails_throw.1 fails
    exact ⟨rfl, Or.inl ⟨fun entry bytes recorded => absurd (none.symm.trans recorded) nofun, rfl⟩⟩
  rename_i entry recorded
  obtain fails | ⟨bytes, _, _, reading, fails⟩ := fails_bind.1 fails
  · obtain ⟨spoilt, rfl, rfl⟩ := fails_object_iff.1 fails
    refine ⟨rfl, Or.inl ⟨fun entry' bytes recorded' object => ?_, rfl⟩⟩
    cases recorded.symm.trans recorded'
    exact spoilt.not_object object
  obtain ⟨object, rfl, rfl⟩ := does_object.1 reading
  obtain fails | ⟨⟨⟩, _, between, writing, fails⟩ := fails_bind.1 fails
  · obtain ⟨fault, -, rfl⟩ := fails_adapt.1 fails
    exact kind.elim
  obtain ⟨first, rfl⟩ := does_writeFile.1 (does_adapt.1 writing)
  split at fails
  · rename_i id named
    obtain fails | ⟨_, _, _, _, fails⟩ := fails_bind.1 fails
    · obtain ⟨spoilt, rfl, rfl⟩ := fails_object_iff.1 fails
      exact ⟨rfl, Or.inr ⟨⟨entry, id, bytes, recorded, named, object, first, spoilt⟩, first.changes⟩⟩
    · obtain ⟨fault, -, rfl⟩ := fails_adapt.1 fails
      exact kind.elim
  · -- Where there were no symbols at the backup, the file for them is taken away, which is no object.
    rename_i named
    obtain fails | ⟨outcome, _, _, removing, fails⟩ := fails_bind.1 fails
    · exact absurd fails not_fails_removeFile
    obtain ⟨told, -⟩ := does_removeFile_iff.1 removing
    split at fails
    · exact absurd fails not_fails_pure
    · exact absurd fails not_fails_pure
    · obtain ⟨rfl, -⟩ := fails_throw.1 fails
      cases removed : between.remove files.symbols with
      | ok disk' =>
        rw [removed] at told
        cases told
      | error fault =>
        rw [removed] at told
        cases told
        obtain ⟨entry', id, recorded', named' | named', path⟩ := kind <;> cases recorded.symm.trans recorded'
        · have path : files.symbols = store.objectPath id := path
          rw [path, named', Disk.remove_eq_ok.2 ⟨object.stays first, rfl⟩] at removed
          cases removed
        · cases named.symm.trans named'

/-! A disk on which the object for a module's symbols has been damaged, while the one for its binary is as it was. -/

def lettersEntry : SnapshotEntry :=
  ⟨"32684bfa28c0c84d6f210511aace0efc5171c7889148ba89208d5aa29705fa98",
    some "808a23433c7626ea4ef55f52a21d5243852c1264892eb80d3635b81625a63b77"⟩

def halfStore : SnapshotStore := ⟨⟨"bk"⟩, .ofList [("A", lettersEntry)], 0⟩

/-- The binary has changed since the backup. -/
def halfDisk : Disk where
  nodes := .ofList [(["A.ivm"], .file (textBytes "B")), (["A.isym"], .file (textBytes "S")), (["bk"], .folder),
    (["bk", "index.json"], .file (textBytes halfStore.index.text)), (["bk", "objects"], .folder),
    (["bk", "objects", "32684bfa28c0c84d6f210511aace0efc5171c7889148ba89208d5aa29705fa98"], .file (textBytes "A")),
    (["bk", "objects", "808a23433c7626ea4ef55f52a21d5243852c1264892eb80d3635b81625a63b77"],
      .file (textBytes "damaged"))]
  workingFolder := []

theorem halfDisk_opens : halfDisk.Opens ⟨"bk"⟩ halfStore := by
  refine Disk.opens_iff.2 ⟨halfStore.index, rfl, Or.inl ⟨_, ?_, SnapshotIndex.ofText?_text _⟩⟩
  with_unfolding_all rfl

theorem halfDisk_pair : halfDisk.pair letterFiles = (some (textBytes "B"), some (textBytes "S")) :=
  Disk.pair_eq_some.2 ⟨by with_unfolding_all rfl, by with_unfolding_all rfl⟩

/-- The store has a sound binary and damaged symbols. -/
theorem halfDisk_objects : halfDisk.read (halfStore.objectPath lettersEntry.binary) = .ok (textBytes "A") ∧
    halfDisk.read (halfStore.objectPath "808a23433c7626ea4ef55f52a21d5243852c1264892eb80d3635b81625a63b77") =
      .ok (textBytes "damaged") := by
  obtain ⟨place, walks⟩ : halfDisk.placeOf halfStore.root = ["bk"] ∧
    _ := Disk.walks_name rfl ⟨by decide, by decide, by decide⟩
  have object {id : String} {bytes named : Bytes} (names : objectId named = id)
      (file : halfDisk.node? ["bk", "objects", id] = some (.file bytes)) :
      halfDisk.read (halfStore.objectPath id) = .ok bytes :=
    Disk.read_object place (names ▸ isName_objectId named) walks rfl rfl file
  have kept : halfDisk.node? ["bk", "objects", lettersEntry.binary] = some (.file (textBytes "A")) ∧
      halfDisk.node? ["bk", "objects", "808a23433c7626ea4ef55f52a21d5243852c1264892eb80d3635b81625a63b77"] =
        some (.file (textBytes "damaged")) :=
    ⟨Disk.node?_of_listed rfl (by simp) (by simp [lettersEntry]) (List.cons_ne_nil _ _),
      Disk.node?_of_listed rfl (by simp) (by simp) (List.cons_ne_nil _ _)⟩
  exact ⟨object letter_digests.1 kept.1, object letter_digests.2.1 kept.2⟩

/-- The restore that fails between the two files. -/
theorem halfDisk_halfRestores : ∃ disk',
    halfStore.HalfRestores "A" letterFiles halfDisk
      (.corrupt "808a23433c7626ea4ef55f52a21d5243852c1264892eb80d3635b81625a63b77") disk' ∧
      disk'.pair letterFiles = (some (textBytes "A"), some (textBytes "S")) := by
  obtain ⟨binary, symbols⟩ := Disk.pair_eq_some.1 halfDisk_pair
  obtain ⟨places, places', root⟩ := letterFiles_places (rfl : halfDisk.workingFolder = [])
  obtain ⟨disk', first⟩ := (Disk.Writable.of_read binary).writes (textBytes "A")
  have damaged :
      disk'.read (halfStore.objectPath "808a23433c7626ea4ef55f52a21d5243852c1264892eb80d3635b81625a63b77") =
      .ok (textBytes "damaged") := by
    refine first.changes.read ?_ halfDisk_objects.2
    rw [places, placeOf_objectPath _ _ (letter_digests.2.1 ▸ isName_objectId _),
      show halfStore.root = letterStore.root from rfl, root]
    decide
  refine ⟨disk', ⟨lettersEntry, _, textBytes "A", by decide, rfl, ⟨halfDisk_objects.1, letter_digests.1⟩,
    first, .damaged damaged ?_⟩, ?_⟩
  · rw [letter_digests.2.2]
    decide
  · refine Disk.pair_eq_some.2 ⟨first.read, first.changes.read ?_ symbols⟩
    rw [places, places']
    decide

theorem letterStore_fails :
    Fails (letterStore.restore "A" letterFiles) letterStore letterDisk
      (.missingBackup "A") letterStore letterDisk := by
  rw [restore]
  exact fails_throw.2 ⟨rfl, rfl, rfl⟩

/-- A backup that was never made, and one whose symbols are damaged. -/
theorem restore_refused_letters :
    (∃ store' disk', Fails (letterStore.restore "A" letterFiles) letterStore letterDisk
      (.missingBackup "A") store' disk' ∧
      store' = letterStore ∧ disk' = letterDisk) ∧
    ∃ failure store' disk', Fails (halfStore.restore "A" letterFiles) halfStore halfDisk failure store' disk' ∧
      store' = halfStore ∧ Disk.Changes (· = halfDisk.placeOf letterFiles.binary) halfDisk disk' := by
  constructor
  · obtain ⟨same, ⟨-, unchanged⟩ | ⟨⟨entry, _, _, recorded, -⟩, -⟩⟩ := restore_refused letterStore_fails trivial
    · exact ⟨_, _, letterStore_fails, same, unchanged⟩
    · exact absurd recorded nofun
  · obtain ⟨disk', half, -⟩ := halfDisk_halfRestores
    have fails : Fails _ halfStore _ _ _ _ := half.fails
    obtain ⟨same, ⟨unsound, -⟩ | ⟨-, changes⟩⟩ := restore_refused fails trivial
    · obtain ⟨entry, _, bytes, recorded, -, object, -⟩ := half
      exact absurd object (unsound entry bytes recorded)
    · exact ⟨_, _, disk', fails, same, changes⟩

/-- A store that is opened on the disk fails to restore the module, and leaves it with the binary of the
backup and the symbols of another. -/
theorem restore_leaves_mixed : halfDisk.Opens ⟨"bk"⟩ halfStore ∧
    halfDisk.pair letterFiles = (some (textBytes "B"), some (textBytes "S")) ∧
    ∃ id disk', Fails (halfStore.restore "A" letterFiles) halfStore halfDisk (.corrupt id) halfStore disk' ∧
      disk'.pair letterFiles = (some (textBytes "A"), some (textBytes "S")) ∧
      disk'.pair letterFiles ≠ halfDisk.pair letterFiles := by
  obtain ⟨disk', half, pair⟩ := halfDisk_halfRestores
  refine ⟨halfDisk_opens, halfDisk_pair, _, disk', half.fails, pair, ?_⟩
  rw [pair, halfDisk_pair]
  decide

end SnapshotStore

end Faultline
