import Faultline.Proofs.Project.Placement
import Faultline.Proofs.Storage.Failures

namespace Faultline

variable {fingerprint : String} {fields : FieldTypes} {next : UInt32} {store store' : SnapshotStore}
  {disk start between disk' later : Disk} {target : PassTarget} {targets : List PassTarget} {loaded : LoadedTarget}
  {all : List LoadedTarget} {outcomes : List PassOutcome} {failure : PassError}

/-! Where a pass fails. -/

/-- It is a module that the pass fails for, not an operation on files or a damaged object. -/
def PassError.OnModule : PassError → Prop
  | .module (.io _) => False
  | .snapshot failure => ∃ name, failure = .missingBackup name
  | _ => True

inductive PassPhase where
  | loading
  | checking
  | instrumenting

/-- A pass fails in a phase at a target: what the phase does to those in front succeeds. -/
inductive StopsAt (fingerprint : String) (front : List PassTarget) (failing : PassTarget) (back : List PassTarget)
    (store : SnapshotStore) (disk : Disk) (failure : PassError) : PassPhase → SnapshotStore → Disk → Prop
  | loading {all : List LoadedTarget} {between disk' : Disk} {store' : SnapshotStore}
      (loads : Does (front.mapM (·.load fingerprint)) store disk all store between)
      (fails : Fails (failing.load fingerprint) store between failure store' disk') :
      StopsAt fingerprint front failing back store disk failure .loading store' disk'
  | checking {ahead behind : List LoadedTarget} {loaded : LoadedTarget} {between disk' : Disk}
      {store' : SnapshotStore}
      (loads : Does ((front ++ failing :: back).mapM (·.load fingerprint)) store disk
        (ahead ++ loaded :: behind) store between)
      (aligned : ahead.map (·.target) = front)
      (checks : Does (ahead.forM LoadedTarget.check) store between ⟨⟩ store between)
      (fails : Fails loaded.check store between failure store' disk') :
      StopsAt fingerprint front failing back store disk failure .checking store' disk'
  | instrumenting {ahead behind : List LoadedTarget} {loaded : LoadedTarget} {outcomes : List PassOutcome}
      {next : UInt32} {between disk₁ disk' : Disk} {store₁ store' : SnapshotStore}
      (loads : Does ((front ++ failing :: back).mapM (·.load fingerprint)) store disk
        (ahead ++ loaded :: behind) store between)
      (aligned : ahead.map (·.target) = front)
      (checks : Does ((ahead ++ loaded :: behind).forM LoadedTarget.check) store between ⟨⟩ store between)
      (instruments : Does
        (instrumentLoaded fingerprint (fieldTypeIn? ((ahead ++ loaded :: behind).map (·.module))) ahead
        (siteIdAfter (LoadedTarget.usedSiteId? (ahead ++ loaded :: behind)))) store between outcomes store₁ disk₁)
      (fails : Fails
        (loaded.instrument fingerprint (fieldTypeIn? ((ahead ++ loaded :: behind).map (·.module))) next) store₁ disk₁
        failure store' disk') :
      StopsAt fingerprint front failing back store disk failure .instrumenting store' disk'

/-- Loading the targets fails at one of them, after all those before it were loaded. -/
theorem Fails.passLoads (fails : Fails (targets.mapM (·.load fingerprint)) store disk failure store' disk') :
    ∃ front failing back all between, targets = front ++ failing :: back ∧
      Does (front.mapM (·.load fingerprint)) store disk all store between ∧
      Fails (failing.load fingerprint) store between failure store' disk' := by
  induction targets generalizing disk with
  | nil =>
    rw [List.mapM_nil] at fails
    exact absurd fails not_fails_pure
  | cons target targets ih =>
    rw [List.mapM_cons] at fails
    obtain here | ⟨loaded, _, between, loads, fails⟩ := fails_bind.1 fails
    · exact ⟨[], target, targets, [], disk, rfl, by rw [List.mapM_nil]; exact does_pure.2 ⟨rfl, rfl, rfl⟩, here⟩
    obtain ⟨starts, rfl⟩ := does_passLoad.1 loads
    obtain later | ⟨_, _, _, -, fails⟩ := fails_bind.1 fails
    · obtain ⟨front, failing, back, all, disk₁, rfl, ahead, failed⟩ := ih later
      refine ⟨target :: front, failing, back, loaded :: all, disk₁, rfl, ?_, failed⟩
      exact does_passLoads.2 ⟨.cons starts (does_passLoads.1 ahead).1, rfl⟩
    · exact absurd fails not_fails_pure

/-- The checks fail at one target, after all those before it passed. -/
theorem Fails.checks (fails : Fails (all.forM LoadedTarget.check) store disk failure store' disk') :
    ∃ ahead loaded behind, all = ahead ++ loaded :: behind ∧
      Does (ahead.forM LoadedTarget.check) store disk ⟨⟩ store disk ∧
      Fails loaded.check store disk failure store' disk' := by
  induction all with
  | nil => exact absurd fails not_fails_pure
  | cons first rest ih =>
    change Fails (first.check >>= fun _ => rest.forM LoadedTarget.check) store disk failure store' disk' at fails
    obtain here | ⟨⟨⟩, _, _, checks, fails⟩ := fails_bind.1 fails
    · exact ⟨[], first, rest, rfl, does_checks.2 ⟨fun _ member => (List.not_mem_nil member).elim, rfl, rfl⟩, here⟩
    obtain ⟨admitted, rfl, rfl⟩ := does_check.1 checks
    obtain ⟨ahead, loaded, behind, rfl, passed, failed⟩ := ih fails
    refine ⟨first :: ahead, loaded, behind, rfl, ?_, failed⟩
    exact does_checks.2 ⟨List.forall_mem_cons.2 ⟨admitted, (does_checks.1 passed).1⟩, rfl, rfl⟩

/-- Instrumenting fails at one target, after all those before it were written. -/
theorem Fails.instrumentLoaded
    (fails : Fails (instrumentLoaded fingerprint fields all next) store disk failure store' disk') :
    ∃ ahead loaded behind outcomes last store₁ disk₁, all = ahead ++ loaded :: behind ∧
      Does (instrumentLoaded fingerprint fields ahead next) store disk outcomes store₁ disk₁ ∧
      Fails (loaded.instrument fingerprint fields last) store₁ disk₁ failure store' disk' := by
  induction all generalizing next store disk with
  | nil =>
    rw [Faultline.instrumentLoaded] at fails
    exact absurd fails not_fails_pure
  | cons first rest ih =>
    rw [Faultline.instrumentLoaded] at fails
    obtain here | ⟨⟨status, last⟩, store₁, disk₁, instruments, fails⟩ := fails_bind.1 fails
    · exact ⟨[], first, rest, [], next, store, disk, rfl, does_instrumentLoaded.2 .nil, here⟩
    obtain later | ⟨_, _, _, -, fails⟩ := fails_bind.1 fails
    · obtain ⟨ahead, loaded, behind, outcomes, last, store₂, disk₂, rfl, passed, failed⟩ := ih later
      have both := InstrumentsAll.cons (does_instrument.1 instruments) (does_instrumentLoaded.1 passed)
      exact ⟨first :: ahead, loaded, behind, _, last, store₂, disk₂, rfl, does_instrumentLoaded.2 both, failed⟩
    · exact absurd fails not_fails_pure

/-- A pass that fails does so at one of the targets. -/
theorem Fails.runPass (fails : Fails (runPass fingerprint targets) store disk failure store' disk') :
    ∃ phase front failing back, targets = front ++ failing :: back ∧
      StopsAt fingerprint front failing back store disk failure phase store' disk' := by
  have split {ahead behind : List LoadedTarget} {loaded : LoadedTarget}
      (same : (ahead ++ loaded :: behind).map (·.target) = targets) :
      targets = ahead.map (·.target) ++ loaded.target :: behind.map (·.target) := by
    rw [← same, List.map_append, List.map_cons]
  rw [Faultline.runPass] at fails
  obtain fails | ⟨all, _, between, loads, fails⟩ := fails_bind.1 fails
  · obtain ⟨front, failing, back, all, between, same, ahead, failed⟩ := fails.passLoads
    exact ⟨_, front, failing, back, same, .loading ahead failed⟩
  have starts := does_passLoads.1 loads
  obtain rfl := starts.2
  obtain fails | ⟨⟨⟩, _, _, checks, fails⟩ := fails_bind.1 fails
  · obtain ⟨ahead, loaded, behind, rfl, checks, failed⟩ := fails.checks
    have parts := split starts.1.targets_eq
    exact ⟨_, _, _, _, parts, .checking (parts ▸ loads) rfl checks failed⟩
  obtain ⟨-, rfl, rfl⟩ := does_checks.1 checks
  obtain ⟨ahead, loaded, behind, outcomes, last, store₁, disk₁, rfl, instruments, failed⟩ := fails.instrumentLoaded
  have parts := split starts.1.targets_eq
  exact ⟨_, _, _, _, parts, .instrumenting (parts ▸ loads) rfl checks instruments failed⟩

/-! What a failure does to the target. -/

/-- A target that cannot be loaded stays as it is, or it is brought back from its backup. -/
theorem Fails.passLoad (fails : Fails (target.load fingerprint) store disk failure store' disk')
    (fault : failure.OnModule) :
    store = store' ∧
      (disk = disk' ∨ ∃ old found, disk.Loads target.files old ∧ old.stampOf fingerprint = .stale found ∧
      store.Restores target.name target.files disk disk') := by
  rw [PassTarget.load] at fails
  obtain fails | ⟨old, _, _, loading, fails⟩ := fails_bind.1 fails
  · obtain ⟨_, fails, -⟩ := fails_adapt.1 fails
    exact ⟨fails.load.1, Or.inl fails.load.2⟩
  obtain ⟨loads, rfl, rfl⟩ := does_load.1 (does_adapt.1 loading)
  split at fails
  · exact absurd fails not_fails_pure
  · exact absurd fails not_fails_pure
  rename_i found stamp
  obtain fails | ⟨_, _, _, getting, fails⟩ := fails_bind.1 fails
  · exact absurd fails not_fails_get
  obtain ⟨rfl, rfl, rfl⟩ := does_get.1 getting
  obtain fails | ⟨⟨⟩, _, disk₁, restoring, fails⟩ := fails_bind.1 fails
  · obtain ⟨inner, restoring, rfl⟩ := fails_adapt.1 fails
    obtain ⟨name, rfl⟩ := fault
    obtain damaged | ⟨id, corrupt⟩ | ⟨-, -, rfl, rfl⟩ := restoring.restore
    · exact absurd damaged id
    · cases corrupt
    · exact ⟨rfl, Or.inl rfl⟩
  obtain ⟨restores, rfl⟩ := SnapshotStore.does_restore (does_adapt.1 restoring)
  obtain fails | ⟨_, _, _, _, fails⟩ := fails_bind.1 fails
  · obtain ⟨_, fails, -⟩ := fails_adapt.1 fails
    obtain ⟨rfl, rfl⟩ := fails.load
    exact ⟨rfl, Or.inr ⟨old, found, loads, stamp, restores⟩⟩
  · exact absurd fails not_fails_pure

/-- A check writes nothing, whether it passes or fails. -/
theorem Fails.check (fails : Fails loaded.check store disk failure store' disk') : store = store' ∧ disk = disk' := by
  obtain ⟨target, module, current, restored⟩ := loaded
  unfold LoadedTarget.check at fails
  dsimp only at fails
  split at fails
  · exact absurd fails not_fails_pure
  split at fails
  · obtain fails | ⟨present, _, _, asking, fails⟩ := fails_bind.1 fails
    · exact absurd fails not_fails_isFile
    obtain ⟨-, rfl, rfl⟩ := does_hasSymbols.1 asking
    split at fails
    · exact absurd fails not_fails_pure
    · exact (fails_throw.1 fails).2
  · obtain fails | ⟨_, _, _, passed, -⟩ := fails_bind.1 fails
    · exact (fails_throw.1 fails).2
    · exact absurd passed does_throw

/-- A target that cannot be instrumented is backed up. -/
theorem Fails.instrument (fails : Fails (loaded.instrument fingerprint fields next) store disk failure store' disk')
    (fault : failure.OnModule) : ∃ entry,
    store.Backs disk loaded.target.name loaded.target.files entry store' disk' := by
  obtain ⟨⟨name, files⟩, module, current, restored⟩ := loaded
  unfold LoadedTarget.instrument at fails
  dsimp only at fails
  split at fails
  · exact absurd fails not_fails_pure
  obtain fails | ⟨⟨⟩, store₁, disk₁, backing, fails⟩ := fails_bind.1 fails
  · obtain ⟨inner, backing, rfl⟩ := fails_adapt.1 (fails_discard.1 fails)
    obtain ⟨name, rfl⟩ := fault
    exact absurd backing.backup id
  obtain ⟨entry, backing⟩ := does_discard.1 backing
  have backs := SnapshotStore.does_backup.1 (does_adapt.1 backing)
  split at fails
  · obtain ⟨-, rfl, rfl⟩ := fails_throw.1 fails
    exact ⟨entry, backs⟩
  obtain fails | ⟨_, _, _, _, fails⟩ := fails_bind.1 fails
  · obtain ⟨inner, storing, rfl⟩ := fails_adapt.1 fails
    obtain ⟨io, rfl⟩ := storing.store_io
    exact absurd fault id
  · exact absurd fails not_fails_pure

end Faultline
