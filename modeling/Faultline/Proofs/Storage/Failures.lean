import Faultline.Proofs.Storage.SnapshotStore

namespace Faultline

section Work

variable {ε ε' α β : Type} {work : Work ε α} {next : α → Work ε β} {store store' : SnapshotStore} {disk disk' : Disk}
  {failure failure' : ε} {value : α}

/-- The work fails, and leaves another store and another disk. -/
def Fails (work : Work ε α) (store : SnapshotStore) (disk : Disk) (failure : ε) (store' : SnapshotStore)
    (disk' : Disk) : Prop :=
  work.ending store disk = ((.error failure, store'), disk')

theorem Fails.unique (fails : Fails work store disk failure store' disk') {store₁ : SnapshotStore} {disk₁ : Disk}
    (fails' : Fails work store disk failure' store₁ disk₁) :
    failure = failure' ∧ store' = store₁ ∧ disk' = disk₁ := by
  have same := fails.symm.trans fails'
  cases same
  exact ⟨rfl, rfl, rfl⟩

theorem Does.not_fails (does : Does work store disk value store' disk') {store₁ : SnapshotStore} {disk₁ : Disk} :
    ¬ Fails work store disk failure store₁ disk₁ := by
  intro fails
  have same := does.symm.trans fails
  cases same

theorem fails_iff_of_ending {outcome : Except ε α} {between : SnapshotStore} {disk₁ : Disk}
    (ending : work.ending store disk = ((outcome, between), disk₁)) :
    Fails work store disk failure store' disk' ↔ outcome = .error failure ∧ between = store' ∧ disk₁ = disk' := by
  rw [Fails, ending, Prod.mk.injEq, Prod.mk.injEq, and_assoc]

theorem not_fails_pure : ¬ Fails (pure value : Work ε α) store disk failure store' disk' :=
  fun fails => by cases fails

theorem fails_throw : Fails (throw failure : Work ε α) store disk failure' store' disk' ↔
    failure = failure' ∧ store = store' ∧ disk = disk' := by
  rw [fails_iff_of_ending rfl, Except.error.injEq]

/-- Of two steps the first fails, or it succeeds and the second fails. -/
theorem fails_bind : Fails (work >>= next) store disk failure store' disk' ↔
    Fails work store disk failure store' disk' ∨
    ∃ value between disk₁, Does work store disk value between disk₁ ∧
    Fails (next value) between disk₁ failure store' disk' := by
  unfold Fails Does
  rw [Work.ending_bind]
  rcases work.ending store disk with ⟨⟨outcome, between⟩, disk₁⟩
  cases outcome with
  | error failure => simp
  | ok value =>
    constructor
    · exact fun fails => Or.inr ⟨value, between, disk₁, rfl, fails⟩
    · rintro (fails | ⟨_, _, _, same, fails⟩)
      · cases fails
      · cases same
        exact fails

theorem fails_map {f : α → β} : Fails (f <$> work) store disk failure store' disk' ↔
    Fails work store disk failure store' disk' := by
  rw [map_eq_pure_bind, fails_bind]
  exact or_iff_left fun ⟨_, _, _, _, fails⟩ => not_fails_pure fails

theorem fails_discard : Fails (discard work) store disk failure store' disk' ↔
    Fails work store disk failure store' disk' := by
  rw [discard, LawfulFunctor.map_const, Function.comp_apply, fails_map]

/-- Renaming the failures of a piece of work changes nothing else. -/
theorem fails_adapt {f : ε → ε'} {failure' : ε'} : Fails (work.adapt f : Work ε' α) store disk failure' store' disk' ↔
    ∃ failure, Fails work store disk failure store' disk' ∧ f failure = failure' := by
  unfold Fails
  rw [Work.ending_adapt]
  rcases work.ending store disk with ⟨⟨outcome, between⟩, disk₁⟩
  cases outcome with
  | ok value => simp [Except.mapError]
  | error failure =>
    simp only [Except.mapError, Prod.mk.injEq, Except.error.injEq]
    constructor
    · rintro ⟨⟨rfl, rfl⟩, rfl⟩
      exact ⟨failure, ⟨⟨rfl, rfl⟩, rfl⟩, rfl⟩
    · rintro ⟨_, ⟨⟨rfl, rfl⟩, rfl⟩, rfl⟩
      exact ⟨⟨rfl, rfl⟩, rfl⟩

theorem not_fails_get {failure : ε} : ¬ Fails (get : Work ε SnapshotStore) store disk failure store' disk' :=
  fun fails => by cases fails

theorem not_fails_set {new : SnapshotStore} {failure : ε} :
    ¬ Fails (set new : Work ε PUnit) store disk failure store' disk' :=
  fun fails => by cases fails

theorem not_fails_modify {f : SnapshotStore → SnapshotStore} {failure : ε} :
    ¬ Fails (modify f : Work ε PUnit) store disk failure store' disk' :=
  fun fails => by cases fails

theorem not_fails_isFile {path : Path} {failure : ε} :
    ¬ Fails (FileAccess.isFile path : Work ε Bool) store disk failure store' disk' :=
  fun fails => by cases fails

/-- A failure to remove a file is caught. -/
theorem not_fails_removeFile {path : Path} {failure : ε} :
    ¬ Fails (removeFile path : ExceptT FileError (Work ε) Unit).run store disk failure store' disk' :=
  fun fails => by cases fails

end Work

/-! Reading leaves everything alone, also where it fails. -/

section Reading

variable {store store' : SnapshotStore} {disk disk' : Disk} {path : Path} {files : ModuleFiles}

theorem fails_readFile {failure : FileError} : Fails (readFile path) store disk failure store' disk' ↔
    (∃ fault, disk.read path = .error fault ∧ ⟨path, fault⟩ = failure) ∧ store = store' ∧ disk = disk' := by
  rw [fails_iff_of_ending rfl]
  refine and_congr_left fun _ => ?_
  cases disk.read path <;> simp [Except.mapError]

theorem Fails.readFile {failure : FileError} (fails : Fails (readFile path) store disk failure store' disk') :
    store = store' ∧ disk = disk' :=
  (fails_readFile.1 fails).2

/-- A read that fails leaves everything as it is. -/
theorem Fails.readText {failure : FileError} (fails : Fails (readText path) store disk failure store' disk') :
    store = store' ∧ disk = disk' := by
  rw [Faultline.readText] at fails
  obtain fails | ⟨bytes, _, _, reading, fails⟩ := fails_bind.1 fails
  · exact fails.readFile
  · obtain ⟨-, rfl, rfl⟩ := does_readFile.1 reading
    split at fails
    · exact absurd fails not_fails_pure
    · exact (fails_throw.1 fails).2

/-- A symbol file that cannot be read leaves everything as it is. -/
theorem Fails.readSymbols {failure : ModuleError} (fails : Fails files.readSymbols store disk failure store' disk') :
    store = store' ∧ disk = disk' := by
  rw [ModuleFiles.readSymbols] at fails
  obtain fails | ⟨text, _, _, reading, fails⟩ := fails_bind.1 fails
  · obtain ⟨_, fails, -⟩ := fails_adapt.1 fails
    exact fails.readText
  · obtain ⟨-, rfl, rfl⟩ := does_readText.1 (does_adapt.1 reading)
    split at fails
    · exact absurd fails not_fails_pure
    · exact (fails_throw.1 fails).2

/-- A module that fails to load leaves everything as it is. -/
theorem Fails.load {failure : ModuleError} (fails : Fails files.load store disk failure store' disk') :
    store = store' ∧ disk = disk' := by
  rw [ModuleFiles.load] at fails
  obtain fails | ⟨bytes, _, _, reading, fails⟩ := fails_bind.1 fails
  · obtain ⟨_, fails, -⟩ := fails_adapt.1 fails
    exact fails.readFile
  obtain ⟨-, rfl, rfl⟩ := does_readFile.1 (does_adapt.1 reading)
  split at fails
  · exact (fails_throw.1 fails).2
  obtain fails | ⟨present, _, _, asking, fails⟩ := fails_bind.1 fails
  · exact absurd fails not_fails_isFile
  obtain ⟨-, rfl, rfl⟩ := does_hasSymbols.1 asking
  split at fails
  · obtain fails | ⟨symbols, _, _, reading, fails⟩ := fails_bind.1 fails
    · exact fails.readSymbols
    obtain ⟨-, rfl, rfl⟩ := does_readSymbols.1 reading
    split at fails
    · exact absurd fails not_fails_pure
    · exact (fails_throw.1 fails).2
  · exact absurd fails not_fails_pure

end Reading

/-! What kinds of failure the operations on modules and backups have. -/

section Kinds

variable {store store' : SnapshotStore} {disk disk' : Disk} {path : Path} {files : ModuleFiles} {name : String}

/-- Only operations on files fail while a module is stored. -/
theorem Fails.store_io {module : Module} {failure : ModuleError}
    (fails : Fails (files.store module) store disk failure store' disk') :
    ∃ fault, failure = .io fault := by
  rw [ModuleFiles.store] at fails
  obtain fails | ⟨_, _, _, _, fails⟩ := fails_bind.1 fails <;>
    obtain ⟨fault, -, rfl⟩ := fails_adapt.1 fails <;> exact ⟨fault, rfl⟩

/-- An operation on a path that fails says so. -/
theorem Fails.onPath {α : Type} {operation : StateT SnapshotStore (StateM Disk) (Except Fault α)}
    {failure : FileError} (fails : Fails (onPath path operation) store disk failure store' disk') :
    failure.path = path := by
  have ending : Work.ending (Faultline.onPath path operation) store disk =
      ((((operation.run store).run disk).1.1.mapError fun fault => (⟨path, fault⟩ : FileError),
        ((operation.run store).run disk).1.2), ((operation.run store).run disk).2) := rfl
  obtain ⟨failed, -, -⟩ := (fails_iff_of_ending ending).1 fails
  cases outcome : ((operation.run store).run disk).1.1 with
  | ok value =>
    rw [outcome] at failed
    cases failed
  | error fault =>
    rw [outcome] at failed
    cases failed
    rfl

theorem Fails.writeFile {bytes : Bytes} {failure : FileError}
    (fails : Fails (writeFile path bytes) store disk failure store' disk') :
    failure.path = path.folder ∨ failure.path = path := by
  rw [Faultline.writeFile] at fails
  obtain fails | ⟨_, _, _, _, fails⟩ := fails_bind.1 fails
  · exact Or.inl fails.onPath
  · exact Or.inr fails.onPath

/-- An operation on files failed. -/
def SnapshotError.OnFiles : SnapshotError → Prop
  | .io _ | .write _ => True
  | _ => False

open SnapshotStore

theorem Fails.writeCounted {bytes : Bytes} {failure : SnapshotError}
    (fails : Fails (writeCounted path bytes) store disk failure store' disk') : failure.OnFiles := by
  rw [SnapshotStore.writeCounted] at fails
  obtain fails | ⟨_, _, _, _, fails⟩ := fails_bind.1 fails
  · obtain ⟨fault, -, rfl⟩ := fails_adapt.1 fails
    exact trivial
  · exact absurd fails not_fails_modify

/-- Keeping a file fails only on a file. -/
theorem Fails.keepFile {failure : SnapshotError} (fails : Fails (keepFile path) store disk failure store' disk') :
    failure.OnFiles := by
  rw [SnapshotStore.keepFile] at fails
  obtain fails | ⟨bytes, _, _, _, fails⟩ := fails_bind.1 fails
  · obtain ⟨fault, -, rfl⟩ := fails_adapt.1 fails
    exact trivial
  obtain fails | ⟨_, _, _, _, fails⟩ := fails_bind.1 fails
  · exact absurd fails not_fails_get
  obtain fails | ⟨present, _, _, _, fails⟩ := fails_bind.1 fails
  · exact absurd fails not_fails_isFile
  cases present with
  | true => exact absurd fails not_fails_pure
  | false =>
    obtain fails | ⟨_, _, _, _, fails⟩ := fails_bind.1 fails
    · exact fails.writeCounted
    · exact absurd fails not_fails_pure

/-- Recording an entry fails only on a file. -/
theorem Fails.record {entry : SnapshotEntry} {failure : SnapshotError}
    (fails : Fails (record name entry) store disk failure store' disk') : failure.OnFiles := by
  rw [SnapshotStore.record] at fails
  obtain fails | ⟨_, _, _, _, fails⟩ := fails_bind.1 fails
  · exact absurd fails not_fails_get
  split at fails
  · exact absurd fails not_fails_pure
  obtain fails | ⟨_, _, _, _, fails⟩ := fails_bind.1 fails
  · exact absurd fails not_fails_set
  · exact fails.writeCounted

/-- Only operations on files fail during a backup. -/
theorem Fails.backup {failure : SnapshotError} (fails : Fails (backup name files) store disk failure store' disk') :
    failure.OnFiles := by
  rw [SnapshotStore.backup] at fails
  obtain fails | ⟨id, _, _, _, fails⟩ := fails_bind.1 fails
  · exact fails.keepFile
  obtain fails | ⟨present, _, _, _, fails⟩ := fails_bind.1 fails
  · exact absurd fails not_fails_isFile
  cases present with
  | true =>
    obtain fails | ⟨_, _, _, _, fails⟩ := fails_bind.1 fails
    · exact (fails_map.1 fails).keepFile
    obtain fails | ⟨_, _, _, _, fails⟩ := fails_bind.1 fails
    · exact fails.record
    · exact absurd fails not_fails_pure
  | false =>
    obtain fails | ⟨_, _, _, _, fails⟩ := fails_bind.1 fails
    · exact absurd fails not_fails_pure
    obtain fails | ⟨_, _, _, _, fails⟩ := fails_bind.1 fails
    · exact fails.record
    · exact absurd fails not_fails_pure

/-- An object that cannot be read or does not hold what its name says, and the failure that reports it. -/
inductive Disk.Spoilt (disk : Disk) (store : SnapshotStore) (id : String) : SnapshotError → Prop
  | unread {fault : Fault} (refused : disk.read (store.objectPath id) = .error fault) :
      Spoilt disk store id (.io ⟨store.objectPath id, fault⟩)
  | damaged {found : Bytes} (read : disk.read (store.objectPath id) = .ok found) (other : objectId found ≠ id) :
      Spoilt disk store id (.corrupt id)

/-- An object cannot be read exactly when it is missing or damaged, and nothing is written. -/
theorem fails_object_iff {store₀ : SnapshotStore} {id : String} {failure : SnapshotError} :
    Fails (store₀.object id) store disk failure store' disk' ↔ disk.Spoilt store₀ id failure ∧
    store = store' ∧ disk = disk' := by
  rw [SnapshotStore.object]
  constructor
  · intro fails
    obtain fails | ⟨found, _, _, reading, fails⟩ := fails_bind.1 fails
    · obtain ⟨_, reading, rfl⟩ := fails_adapt.1 fails
      obtain ⟨⟨fault, refused, rfl⟩, same⟩ := fails_readFile.1 reading
      exact ⟨.unread refused, same⟩
    · obtain ⟨read, rfl, rfl⟩ := does_readFile.1 (does_adapt.1 reading)
      split at fails
      · exact absurd fails not_fails_pure
      · rename_i other
        obtain ⟨rfl, same⟩ := fails_throw.1 fails
        exact ⟨.damaged read other, same⟩
  · rintro ⟨refused | ⟨read, other⟩, rfl, rfl⟩
    · exact fails_bind.2 (Or.inl (fails_adapt.2 ⟨_, fails_readFile.2 ⟨⟨_, refused, rfl⟩, rfl, rfl⟩, rfl⟩))
    · refine fails_bind.2 (Or.inr ⟨_, store, disk, does_adapt.2 (does_readFile.2 ⟨read, rfl, rfl⟩), ?_⟩)
      rw [if_neg other]
      exact fails_throw.2 ⟨rfl, rfl, rfl⟩

theorem Fails.object {store₀ : SnapshotStore} {id : String} {failure : SnapshotError}
    (fails : Fails (store₀.object id) store disk failure store' disk') : failure.OnFiles ∨ failure = .corrupt id := by
  obtain ⟨refused | ⟨read, other⟩, -⟩ := fails_object_iff.1 fails
  · exact Or.inl trivial
  · exact Or.inr rfl

/-- Where a backup is missing, nothing is restored. -/
theorem Fails.restore {store₀ : SnapshotStore} {failure : SnapshotError}
    (fails : Fails (store₀.restore name files) store disk failure store' disk') :
    failure.OnFiles ∨ (∃ id, failure = .corrupt id) ∨
      failure = .missingBackup name ∧ store₀.entryOf? name = none ∧ store = store' ∧ disk = disk' := by
  suffices shown : (failure.OnFiles ∨ ∃ id, failure = .corrupt id) ∨
      failure = .missingBackup name ∧ store₀.entryOf? name = none ∧ store = store' ∧
      disk = disk' from or_assoc.1 shown
  unfold SnapshotStore.restore at fails
  split at fails
  · rename_i none
    obtain ⟨rfl, same⟩ := fails_throw.1 fails
    exact Or.inr ⟨rfl, none, same⟩
  left
  obtain fails | ⟨bytes, _, _, _, fails⟩ := fails_bind.1 fails
  · exact fails.object.imp_right fun corrupt => ⟨_, corrupt⟩
  obtain fails | ⟨_, _, _, _, fails⟩ := fails_bind.1 fails
  · obtain ⟨fault, -, rfl⟩ := fails_adapt.1 fails
    exact Or.inl trivial
  split at fails
  · obtain fails | ⟨_, _, _, _, fails⟩ := fails_bind.1 fails
    · exact fails.object.imp_right fun corrupt => ⟨_, corrupt⟩
    · obtain ⟨fault, -, rfl⟩ := fails_adapt.1 fails
      exact Or.inl trivial
  · obtain fails | ⟨removed, _, _, _, fails⟩ := fails_bind.1 fails
    · exact absurd fails not_fails_removeFile
    split at fails
    · exact absurd fails not_fails_pure
    · exact absurd fails not_fails_pure
    · obtain ⟨rfl, -⟩ := fails_throw.1 fails
      exact Or.inl trivial

/-- Where a backup is said to be missing, nothing was done. -/
theorem Fails.missing {store₀ : SnapshotStore} {name' : String}
    (fails : Fails (store₀.restore name files) store disk (.missingBackup name') store' disk') :
    store = store' ∧ disk = disk' := by
  obtain impossible | ⟨_, impossible⟩ | ⟨-, -, same⟩ := fails.restore
  · exact impossible.elim
  · cases impossible
  · exact same

end Kinds

end Faultline
