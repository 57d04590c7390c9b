import Faultline.Proofs.Storage.Changes
import Faultline.Proofs.Text.Utf8
import Faultline.Storage.SnapshotStore

namespace Faultline

/-- What is done with a snapshot store on a disk. -/
abbrev Work (ε α : Type) := ExceptT ε (StateT SnapshotStore (StateM Disk)) α

section Work

variable {ε ε' α β : Type} {work : Work ε α} {next : α → Work ε β} {store store' : SnapshotStore} {disk disk' : Disk}
  {value value' : α} {result : β}

def Work.ending (work : Work ε α) (store : SnapshotStore) (disk : Disk) : (Except ε α × SnapshotStore) × Disk :=
  (work.run.run store).run disk

/-- The work succeeds with the value, and leaves another store and another disk. -/
def Does (work : Work ε α) (store : SnapshotStore) (disk : Disk) (value : α) (store' : SnapshotStore)
    (disk' : Disk) : Prop :=
  work.ending store disk = ((.ok value, store'), disk')

theorem Does.unique (does : Does work store disk value store' disk') {store₁ : SnapshotStore} {disk₁ : Disk}
    (does' : Does work store disk value' store₁ disk₁) : value = value' ∧ store' = store₁ ∧ disk' = disk₁ := by
  have same := does.symm.trans does'
  cases same
  exact ⟨rfl, rfl, rfl⟩

/-- Work that is seen to end well does something. -/
theorem does_of_toOption (ended : (work.ending store disk).1.1.toOption = some value) :
    Does work store disk value (work.ending store disk).1.2 (work.ending store disk).2 := by
  unfold Does
  revert ended
  rcases work.ending store disk with ⟨⟨outcome, between⟩, disk₁⟩
  intro ended
  cases outcome with
  | error failure => cases ended
  | ok result =>
    cases ended
    rfl

theorem does_iff_of_ending {outcome : Except ε α} {between : SnapshotStore} {disk₁ : Disk}
    (ending : work.ending store disk = ((outcome, between), disk₁)) :
    Does work store disk value store' disk' ↔ outcome = .ok value ∧ between = store' ∧ disk₁ = disk' := by
  rw [Does, ending, Prod.mk.injEq, Prod.mk.injEq, and_assoc]

theorem does_pure : Does (pure value : Work ε α) store disk value' store' disk' ↔
    value = value' ∧ store = store' ∧ disk = disk' := by
  rw [does_iff_of_ending rfl, Except.ok.injEq]

theorem does_throw {failure : ε} : ¬ Does (throw failure : Work ε α) store disk value store' disk' :=
  fun does => by cases does

theorem Work.ending_bind (work : Work ε α) (next : α → Work ε β) (store : SnapshotStore) (disk : Disk) :
    (work >>= next).ending store disk = match work.ending store disk with
      | ((.ok value, between), disk₁) => (next value).ending between disk₁
      | ((.error failure, between), disk₁) => ((.error failure, between), disk₁) := by
  change (match work.ending store disk with
    | ((outcome, between), disk₁) =>
      ((ExceptT.bindCont next outcome : StateT SnapshotStore (StateM Disk) _).run between).run disk₁) = _
  rcases work.ending store disk with ⟨⟨outcome, between⟩, disk₁⟩
  cases outcome <;> rfl

theorem Work.ending_adapt (work : Work ε α) (f : ε → ε') (store : SnapshotStore) (disk : Disk) :
    Work.ending (work.adapt f) store disk = match work.ending store disk with
      | ((outcome, between), disk₁) => ((outcome.mapError f, between), disk₁) := rfl

/-- Two pieces of work in sequence. -/
theorem does_bind : Does (work >>= next) store disk result store' disk' ↔
    ∃ value between disk₁, Does work store disk value between disk₁ ∧
    Does (next value) between disk₁ result store' disk' := by
  unfold Does
  rw [Work.ending_bind]
  rcases work.ending store disk with ⟨⟨outcome, between⟩, disk₁⟩
  cases outcome with
  | error failure => simp
  | ok value =>
    constructor
    · exact fun done => ⟨value, between, disk₁, rfl, done⟩
    · rintro ⟨_, _, _, same, done⟩
      cases same
      exact done

/-- Mapping the result does nothing to the store or the disk. -/
theorem does_map {f : α → β} : Does (f <$> work) store disk result store' disk' ↔
    ∃ value, Does work store disk value store' disk' ∧ f value = result := by
  rw [map_eq_pure_bind, does_bind]
  simp only [does_pure]
  constructor
  · rintro ⟨value, _, _, done, same, rfl, rfl⟩
    exact ⟨value, done, same⟩
  · rintro ⟨value, done, same⟩
    exact ⟨value, store', disk', done, same, rfl, rfl⟩

theorem does_discard {done : PUnit} : Does (discard work) store disk done store' disk' ↔
    ∃ value, Does work store disk value store' disk' := by
  rw [discard, LawfulFunctor.map_const, Function.comp_apply, does_map]
  exact exists_congr fun value => and_iff_left rfl

theorem does_adapt {f : ε → ε'} : Does (work.adapt f : Work ε' α) store disk value store' disk' ↔
    Does work store disk value store' disk' := by
  unfold Does
  rw [Work.ending_adapt]
  rcases work.ending store disk with ⟨⟨outcome, between⟩, disk₁⟩
  cases outcome <;> simp [Except.mapError]

theorem does_get {found : SnapshotStore} : Does (get : Work ε SnapshotStore) store disk found store' disk' ↔
    store = found ∧ store = store' ∧ disk = disk' := by
  rw [does_iff_of_ending rfl, Except.ok.injEq]

theorem does_set {new : SnapshotStore} {done : PUnit} :
    Does (set new : Work ε PUnit) store disk done store' disk' ↔ new = store' ∧ disk = disk' := by
  rw [does_iff_of_ending rfl]
  exact and_iff_right rfl

theorem does_modify {f : SnapshotStore → SnapshotStore} {done : PUnit} :
    Does (modify f : Work ε PUnit) store disk done store' disk' ↔ f store = store' ∧ disk = disk' := by
  rw [does_iff_of_ending rfl]
  exact and_iff_right rfl

end Work

/-! What the operations on files do. -/

section Files

variable {ε : Type} {store store' : SnapshotStore} {disk disk' : Disk} {path : Path} {bytes : Bytes} {text : String}

theorem mapError_eq_ok {ε' α : Type} {outcome : Except ε α} {f : ε → ε'} {value : α} :
    outcome.mapError f = .ok value ↔ outcome = .ok value := by
  cases outcome <;> simp [Except.mapError]

theorem does_isFile {found : Bool} : Does (FileAccess.isFile path : Work ε Bool) store disk found store' disk' ↔
    disk.isFile path = found ∧ store = store' ∧ disk = disk' := by
  rw [does_iff_of_ending rfl, Except.ok.injEq]

theorem does_readFile : Does (readFile path) store disk bytes store' disk' ↔
    disk.read path = .ok bytes ∧ store = store' ∧ disk = disk' := by
  rw [does_iff_of_ending rfl]
  exact and_congr_left fun _ => mapError_eq_ok

/-- What reading a text file does. -/
theorem does_readText : Does (readText path) store disk text store' disk' ↔
    disk.read path = .ok (textBytes text) ∧ store = store' ∧ disk = disk' := by
  rw [readText, does_bind]
  simp only [does_readFile]
  constructor
  · rintro ⟨bytes, _, _, ⟨found, rfl, rfl⟩, decoded⟩
    split at decoded
    · rename_i text' sound
      obtain ⟨rfl, rfl, rfl⟩ := does_pure.1 decoded
      exact ⟨by rw [textBytes_of_decodeUtf8 sound, found], rfl, rfl⟩
    · exact absurd decoded does_throw
  · rintro ⟨found, rfl, rfl⟩
    refine ⟨_, _, _, ⟨found, rfl, rfl⟩, ?_⟩
    rw [decodeUtf8_textBytes]
    exact does_pure.2 ⟨rfl, rfl, rfl⟩

theorem keep_eq_ok (disk : Disk) {outcome : Except Fault Disk} :
    disk.keep outcome = (.ok (), disk') ↔ outcome = .ok disk' := by
  cases outcome <;> simp [Disk.keep]

theorem does_createFolders {done : Unit} :
    Does (onPath path (FileAccess.createFolders path)) store disk done store' disk' ↔
    disk.createFolders path = (.ok (), disk') ∧ store = store' := by
  have ending : Work.ending (onPath path (FileAccess.createFolders path)) store disk =
      (((disk.createFolders path).1.mapError fun fault => (⟨path, fault⟩ : FileError), store),
        (disk.createFolders path).2) := rfl
  rw [does_iff_of_ending ending, mapError_eq_ok, Prod.ext_iff, and_assoc, and_comm (b := _ = disk')]

theorem does_write {done : Unit} : Does (onPath path (FileAccess.write path bytes)) store disk done store' disk' ↔
    disk.write path bytes = .ok disk' ∧ store = store' := by
  have ending : Work.ending (onPath path (FileAccess.write path bytes)) store disk =
      (((disk.keep (disk.write path bytes)).1.mapError fun fault => (⟨path, fault⟩ : FileError), store),
        (disk.keep (disk.write path bytes)).2) := rfl
  rw [does_iff_of_ending ending, mapError_eq_ok, ← keep_eq_ok disk, Prod.ext_iff, and_assoc,
    and_comm (b := _ = disk')]

/-- What writing a file does. -/
theorem does_writeFile {done : Unit} : Does (writeFile path bytes) store disk done store' disk' ↔
    disk.Writes path bytes disk' ∧ store = store' := by
  rw [writeFile, does_bind]
  constructor
  · rintro ⟨⟨⟩, _, between, first, second⟩
    obtain ⟨made, same⟩ := does_createFolders.1 first
    obtain ⟨put, same'⟩ := does_write.1 second
    exact ⟨⟨between, made, put⟩, same.trans same'⟩
  · rintro ⟨⟨between, made, put⟩, rfl⟩
    exact ⟨(), store, between, does_createFolders.2 ⟨made, rfl⟩, does_write.2 ⟨put, rfl⟩⟩

/-- Removing a file always ends, and it says how. -/
theorem does_removeFile_iff {outcome : Except FileError Unit} :
    Does (removeFile path : ExceptT FileError (Work ε) Unit).run store disk outcome store' disk' ↔
      ((disk.keep (disk.remove path)).1.mapError fun fault => (⟨path, fault⟩ : FileError)) = outcome ∧
        store = store' ∧
        (disk.keep (disk.remove path)).2 = disk' := by
  have ending : Work.ending (removeFile path : ExceptT FileError (Work ε) Unit).run store disk =
      ((.ok ((disk.keep (disk.remove path)).1.mapError fun fault => (⟨path, fault⟩ : FileError)), store),
        (disk.keep (disk.remove path)).2) := rfl
  rw [does_iff_of_ending ending, Except.ok.injEq]

/-- Removing a file ends well, or it fails and leaves everything as it is. -/
theorem does_removeFile {outcome : Except FileError Unit}
    (does : Does (removeFile path : ExceptT FileError (Work ε) Unit).run store disk outcome store' disk') :
    store = store' ∧ (disk.remove path = .ok disk' ∨ disk = disk' ∧ ∃ fault, disk.remove path = .error fault ∧
      outcome = .error ⟨path, fault⟩) := by
  obtain ⟨same, rfl, rfl⟩ := does_removeFile_iff.1 does
  refine ⟨rfl, ?_⟩
  cases removed : disk.remove path with
  | error fault =>
    rw [removed] at same
    exact Or.inr ⟨rfl, fault, rfl, same.symm⟩
  | ok disk' => exact Or.inl rfl

end Files

end Faultline
