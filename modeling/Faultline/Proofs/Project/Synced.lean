import Faultline.Proofs.Project.Placement

namespace Faultline

variable {fingerprint : String} {fields : FieldTypes} {next last : UInt32} {store store' : SnapshotStore}
  {disk between disk' : Disk} {target : PassTarget} {targets : List PassTarget} {loaded : LoadedTarget}
  {all : List LoadedTarget} {outcomes : List PassOutcome}

/-! A store that is on the disk as it is in memory. -/

/-- Nothing was restored, or the index is on the disk. -/
theorem PassTarget.Starts.same_or_onDisk (starts : target.Starts fingerprint store disk loaded disk')
    (synced : store.Synced disk)
    (outside : ∀ place, disk.Holds target.files place → ¬ disk.Stored store.root place) :
    disk' = disk ∨ store.OnDisk disk' := by
  cases starts with
  | current _ _ | unstamped _ _ => exact Or.inl rfl
  | stale _ _ restores _ =>
    have restores := (SnapshotStore.does_restore restores).1
    obtain ⟨entry, bytes, recorded, -⟩ := restores.recorded
    exact Or.inr ((synced.onDisk recorded).changes restores.changes fun held => outside _ held (disk.stored_index _))

/-- A store in step with its disk stays so through the loads, or no restore wrote anything. -/
theorem StartsAll.same_or_onDisk (starts : StartsAll fingerprint store targets disk all disk')
    (synced : store.Synced disk) (placed : disk.Placed store.root targets) : disk' = disk ∨ store.OnDisk disk' := by
  induction starts with
  | nil => exact Or.inl rfl
  | cons first _ ih =>
    have around := placed.tail.changes first.changes
    rcases first.same_or_onDisk synced (placed.outside _ List.mem_cons_self) with rfl | onDisk
    · exact ih synced around
    · rcases ih (SnapshotStore.synced_iff.2 (Or.inl onDisk)) around with rfl | onDisk'
      · exact Or.inr onDisk
      · exact Or.inr onDisk'

theorem StartsAll.synced (starts : StartsAll fingerprint store targets disk all disk') (synced : store.Synced disk)
    (placed : disk.Placed store.root targets) : store.Synced disk' := by
  rcases starts.same_or_onDisk synced placed with rfl | onDisk
  · exact synced
  · exact SnapshotStore.synced_iff.2 (Or.inl onDisk)

/-- Nothing was backed up, or the index is on the disk. -/
theorem LoadedTarget.Instruments.same_or_onDisk {status : PassStatus}
    (instruments : loaded.Instruments fingerprint fields next store disk status last store' disk')
    (synced : store.Synced disk)
    (outside : ∀ place, disk.Holds loaded.target.files place → ¬ disk.Stored store.root place) :
    (store' = store ∧ disk' = disk) ∨ store'.OnDisk disk' := by
  cases instruments with
  | current _ => exact Or.inl ⟨rfl, rfl⟩
  | other _ backs _ stores =>
    refine Or.inr ((backs.onDisk synced).changes stores.changes ?_)
    rw [backs.changes.holds, backs.changes.placeOf, backs.root]
    exact fun held => outside _ held (disk.stored_index _)

/-- A store in step with its disk stays so through a pass, or the pass wrote nothing. -/
theorem InstrumentsAll.same_or_onDisk
    (instruments : InstrumentsAll fingerprint fields all next store disk outcomes store' disk')
    (synced : store.Synced disk) (placed : disk.Placed store.root (all.map (·.target))) :
    (store' = store ∧ disk' = disk) ∨ store'.OnDisk disk' := by
  induction instruments with
  | nil => exact Or.inl ⟨rfl, rfl⟩
  | cons first _ ih =>
    have around := placed.changes first.changes
    rw [← first.root] at around
    rcases first.same_or_onDisk synced (placed.outside _ List.mem_cons_self) with ⟨rfl, rfl⟩ | onDisk
    · exact ih synced around.tail
    · rcases ih (SnapshotStore.synced_iff.2 (Or.inl onDisk)) around.tail with ⟨rfl, rfl⟩ | onDisk'
      · exact Or.inr onDisk
      · exact Or.inr onDisk'

theorem InstrumentsAll.synced
    (instruments : InstrumentsAll fingerprint fields all next store disk outcomes store' disk')
    (synced : store.Synced disk) (placed : disk.Placed store.root (all.map (·.target))) : store'.Synced disk' := by
  rcases instruments.same_or_onDisk synced placed with ⟨rfl, rfl⟩ | onDisk
  · exact synced
  · exact SnapshotStore.synced_iff.2 (Or.inl onDisk)

end Faultline
