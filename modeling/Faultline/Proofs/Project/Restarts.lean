import Faultline.Proofs.Project.Moments
import Faultline.Proofs.Project.Standing
import Faultline.Proofs.Project.Synced
import Faultline.Proofs.Storage.Reopening

namespace Faultline

variable {fingerprint : String} {fields : FieldTypes} {next last : UInt32} {store store' : SnapshotStore}
  {start disk between disk' : Disk} {target : PassTarget} {targets targets' : List PassTarget} {loaded : LoadedTarget}
  {all all' ahead ahead' behind : List LoadedTarget} {outcomes outcomes₁ outcomes₂ : List PassOutcome}

/-! What a pass does depends neither on what the store has written nor on what has been restored. -/

theorem PassTarget.Starts.recount (starts : target.Starts fingerprint store disk loaded disk') (count : Nat) :
    target.Starts fingerprint { store with writes := count } disk loaded disk' := by
  cases starts with
  | current loads stamp => exact .current loads stamp
  | unstamped loads stamp => exact .unstamped loads stamp
  | stale loads stamp restores reloads =>
    exact .stale loads stamp (SnapshotStore.does_restore_recount restores count) reloads

theorem StartsAll.recount (starts : StartsAll fingerprint store targets disk all disk') (count : Nat) :
    StartsAll fingerprint { store with writes := count } targets disk all disk' := by
  induction starts with
  | nil => exact .nil
  | cons first _ ih => exact .cons (first.recount count) ih

theorem StartsAll.append (starts : StartsAll fingerprint store targets disk all between)
    (later : StartsAll fingerprint store targets' between all' disk') :
    StartsAll fingerprint store (targets ++ targets') disk (all ++ all') disk' := by
  induction starts with
  | nil => exact later
  | cons first _ ih => exact .cons first (ih later)

/-- The target as it is loaded where nothing has to be restored. -/
def LoadedTarget.unrestored (loaded : LoadedTarget) : LoadedTarget := { loaded with restored := false }

/-- What is done with a target does not depend on whether it was just restored, nor on the writes counted
before. -/
theorem LoadedTarget.Instruments.anew {status : PassStatus} {other : LoadedTarget}
    (instruments : loaded.Instruments fingerprint fields next store disk status last store' disk')
    (same : other.unrestored = loaded.unrestored) (count : Nat) : ∃ status' count',
      other.Instruments fingerprint fields next { store with writes := count } disk status' last
        { store' with writes := count' } disk' := by
  obtain ⟨target, module, current, restored⟩ := loaded
  obtain ⟨_, _, _, restored'⟩ := other
  cases same
  cases instruments with
  | current current => exact ⟨_, count, .current current⟩
  | other other backs instrumented stores =>
    obtain ⟨count', backs⟩ := backs.recount count
    exact ⟨_, count', .other other backs instrumented stores⟩

/-- What is done with the targets does not depend on which were just restored, nor on the writes counted
before. -/
theorem InstrumentsAll.anew
    (instruments : InstrumentsAll fingerprint fields all next store disk outcomes store' disk')
    (same : all'.map (·.unrestored) = all.map (·.unrestored)) (count : Nat) : ∃ outcomes' count',
      InstrumentsAll fingerprint fields all' next { store with writes := count } disk outcomes'
        { store' with writes := count' } disk' := by
  induction instruments generalizing all' count with
  | nil =>
    rw [List.map_nil, List.map_eq_nil_iff] at same
    subst same
    exact ⟨_, count, .nil⟩
  | cons first _ ih =>
    obtain ⟨other, rest, rfl, here, further⟩ := List.map_eq_cons_iff.1 same
    obtain ⟨status, count₁, first⟩ := first.anew here count
    obtain ⟨outcomes', count', later⟩ := ih further count₁
    exact ⟨_, count', .cons first later⟩

/-- Modules that are up to date may stand in front. -/
theorem InstrumentsAll.after_current
    (instruments : InstrumentsAll fingerprint fields behind next store disk outcomes store' disk')
    (current : ∀ each ∈ ahead, each.current = true) :
    ∃ outcomes', InstrumentsAll fingerprint fields (ahead ++ behind) next store disk outcomes' store' disk' := by
  induction ahead with
  | nil => exact ⟨outcomes, instruments⟩
  | cons first rest ih =>
    obtain ⟨here, later⟩ := List.forall_mem_cons.1 current
    obtain ⟨outcomes', instruments'⟩ := ih later
    exact ⟨_, .cons (.current here) instruments'⟩

/-! Loading targets where nothing has to be restored. -/

/-- The module can be loaded from the disk, and it is up to date or without a stamp. -/
structure LoadedTarget.Found (loaded : LoadedTarget) (fingerprint : String) (disk : Disk) : Prop where
  loads : disk.Loads loaded.target.files loaded.module
  stamp : loaded.module.stampOf fingerprint = if loaded.current then .current else .unstamped

/-- Targets found as a pass left them are loaded without a write. -/
theorem startsAll_of_found (store : SnapshotStore) (found : ∀ each ∈ all, each.Found fingerprint disk) :
    StartsAll fingerprint store (all.map (·.target)) disk (all.map (·.unrestored)) disk := by
  induction all with
  | nil => exact .nil
  | cons first rest ih =>
    obtain ⟨⟨loads, stamp⟩, later⟩ := List.forall_mem_cons.1 found
    obtain ⟨target, module, current, restored⟩ := first
    refine .cons ?_ (ih later)
    cases current with
    | true => exact .current loads stamp
    | false => exact .unstamped loads stamp

/-- Targets that have been loaded can be loaded again while their files are left alone, unless a backup
carries a stamp. -/
theorem StartsAll.found (starts : StartsAll fingerprint store targets start all between)
    (ordered : start.Ordered store.root targets)
    (unstamped : ∀ each ∈ all, each.current = false → each.module.stampOf fingerprint = .unstamped) :
    ∀ each ∈ all, between.Spares each.target.files disk → each.Found fingerprint disk := by
  intro each member spares
  have stands := starts.stands ordered (.refl start) (fun _ _ _ _ never => never)
    (fun _ _ never => never) each member disk spares
  refine ⟨stands.loads, ?_⟩
  cases current : each.current with
  | true => exact (starts.current ordered.placed (fun _ _ => .refl _) each member current).1
  | false => exact unstamped each member current

/-! Opening the store again. -/

theorem StartsAll.reopenable (starts : StartsAll fingerprint store targets disk all disk')
    (reopenable : store.Reopenable disk) (placed : disk.Placed store.root targets) : store.Reopenable disk' := by
  rcases starts.same_or_onDisk reopenable.synced placed with rfl | onDisk
  · exact reopenable
  · exact Or.inl onDisk

theorem InstrumentsAll.reopenable
    (instruments : InstrumentsAll fingerprint fields all next store disk outcomes store' disk')
    (reopenable : store.Reopenable disk) (placed : disk.Placed store.root (all.map (·.target))) :
    store'.Reopenable disk' := by
  rcases instruments.same_or_onDisk reopenable.synced placed with ⟨rfl, rfl⟩ | onDisk
  · exact reopenable
  · exact Or.inl onDisk

/-- The pass can be started anew from the disk, with the store that is opened there, and it ends with the
other disk. -/
def Disk.Resumes (disk : Disk) (fingerprint : String) (targets : List PassTarget) (root : Path)
    (disk' : Disk) : Prop :=
  ∃ store outcomes store', disk.Opens root store ∧ Does (runPass fingerprint targets) store disk outcomes store' disk'

theorem LoadedTarget.usedSiteId?_unrestored (all : List LoadedTarget) :
    usedSiteId? (all.map (·.unrestored)) = usedSiteId? all := by
  rw [usedSiteId?, List.filter_map, List.filterMap_map]
  rfl

theorem LoadedTarget.map_module_unrestored (all : List LoadedTarget) :
    (all.map (·.unrestored)).map (·.module) = all.map (·.module) :=
  List.map_map

/-- It does not matter for a pass whether its targets have been restored by itself or before. -/
theorem StartsAll.resumes (starts : StartsAll fingerprint store targets disk all' between)
    (opened : store.Synced disk) (same : all'.map (·.unrestored) = all.map (·.unrestored))
    (admitted : ∀ each ∈ all, each.Admitted between)
    (instruments : InstrumentsAll fingerprint (fieldTypeIn? (all.map (·.module))) all
      (siteIdAfter (LoadedTarget.usedSiteId? all))
      store between outcomes store' disk') : disk.Resumes fingerprint targets store.root disk' := by
  obtain ⟨outcomes', count, anew⟩ := instruments.anew same 0
  rw [← LoadedTarget.map_module_unrestored all, ← LoadedTarget.usedSiteId?_unrestored all, ← same,
    LoadedTarget.map_module_unrestored, LoadedTarget.usedSiteId?_unrestored] at anew
  refine ⟨_, outcomes', _, opened, does_runPass.2 ⟨all', between, starts.recount 0, fun each' member' => ?_, anew⟩⟩
  obtain ⟨each, member, alike⟩ :=
    List.mem_map.1 (same ▸ List.mem_map_of_mem member' : each'.unrestored ∈ all.map (·.unrestored))
  have here : each.unrestored.Admitted between := admitted each member
  rw [alike] at here
  exact here

/-- At a moment of loading, and before it. -/
theorem resumes_of_loading {early later : List PassTarget} {all₁ all₂ : List LoadedTarget}
    (ordered : start.Ordered store.root (early ++ later)) (reopenable : store.Reopenable start)
    (unstamped : ∀ each ∈ all₁, each.current = false → each.module.stampOf fingerprint = .unstamped)
    (earlier : StartsAll fingerprint store early start all₁ disk)
    (onward : StartsAll fingerprint store later disk all₂ between)
    (admitted : ∀ each ∈ all₁ ++ all₂, each.Admitted between)
    (instruments : InstrumentsAll fingerprint (fieldTypeIn? ((all₁ ++ all₂).map (·.module))) (all₁ ++ all₂)
      (siteIdAfter (LoadedTarget.usedSiteId? (all₁ ++ all₂))) store between outcomes store' disk') :
    disk.Resumes fingerprint (early ++ later) store.root disk' := by
  have ordered₁ := ordered.sublist (List.sublist_append_left early later)
  have found : ∀ each ∈ all₁, each.Found fingerprint disk := fun each member =>
    earlier.found ordered₁ unstamped each member (.refl disk)
  have starts := (earlier.targets_eq ▸ startsAll_of_found store found).append onward
  refine starts.resumes (earlier.reopenable reopenable ordered₁.placed).synced ?_ admitted instruments
  rw [List.map_append, List.map_append, List.map_map]
  rfl

end Faultline
