import Faultline.Project.Pass
import Faultline.Proofs.Storage.SnapshotStore

namespace Faultline

variable {fingerprint : String} {fields : FieldTypes} {store store' : SnapshotStore} {disk disk' : Disk}

/-- How a pass starts with a target. -/
inductive PassTarget.Starts (target : PassTarget) (fingerprint : String) (store : SnapshotStore) (disk : Disk) :
    LoadedTarget → Disk → Prop
  | current {module : Module} (loads : disk.Loads target.files module)
      (stamp : module.stampOf fingerprint = .current) :
      target.Starts fingerprint store disk ⟨target, module, true, false⟩ disk
  | unstamped {module : Module} (loads : disk.Loads target.files module)
      (stamp : module.stampOf fingerprint = .unstamped) :
      target.Starts fingerprint store disk ⟨target, module, false, false⟩ disk
  | stale {old module : Module} {found : String} {disk' : Disk} (loads : disk.Loads target.files old)
      (stamp : old.stampOf fingerprint = .stale found)
      (restores : Does (store.restore target.name target.files) store disk () store disk')
      (reloads : disk'.Loads target.files module) :
      target.Starts fingerprint store disk ⟨target, module, false, true⟩ disk'

/-- What loading one target of a pass does. -/
theorem does_passLoad {target : PassTarget} {loaded : LoadedTarget} :
    Does (target.load fingerprint) store disk loaded store' disk' ↔
      target.Starts fingerprint store disk loaded disk' ∧ store = store' := by
  rw [PassTarget.load, does_bind]
  constructor
  · rintro ⟨module, _, _, loading, later⟩
    obtain ⟨loads, rfl, rfl⟩ := does_load.1 (does_adapt.1 loading)
    split at later
    · rename_i stamp
      obtain ⟨rfl, same, rfl⟩ := does_pure.1 later
      exact ⟨.current loads stamp, same⟩
    · rename_i stamp
      obtain ⟨rfl, same, rfl⟩ := does_pure.1 later
      exact ⟨.unstamped loads stamp, same⟩
    · rename_i found stamp
      obtain ⟨_, _, _, getting, later⟩ := does_bind.1 later
      obtain ⟨rfl, rfl, rfl⟩ := does_get.1 getting
      obtain ⟨⟨⟩, store₁, disk₁, restoring, later⟩ := does_bind.1 later
      have restoring := does_adapt.1 restoring
      obtain ⟨-, kept⟩ := SnapshotStore.does_restore restoring
      subst kept
      obtain ⟨module', _, _, reloading, later⟩ := does_bind.1 later
      obtain ⟨reloads, rfl, rfl⟩ := does_load.1 (does_adapt.1 reloading)
      obtain ⟨rfl, same, rfl⟩ := does_pure.1 later
      exact ⟨.stale loads stamp restoring reloads, same⟩
  · rintro ⟨starts, rfl⟩
    cases starts with
    | current loads stamp =>
      refine ⟨_, _, _, does_adapt.2 (does_load.2 ⟨loads, rfl, rfl⟩), ?_⟩
      rw [stamp]
      exact does_pure.2 ⟨rfl, rfl, rfl⟩
    | unstamped loads stamp =>
      refine ⟨_, _, _, does_adapt.2 (does_load.2 ⟨loads, rfl, rfl⟩), ?_⟩
      rw [stamp]
      exact does_pure.2 ⟨rfl, rfl, rfl⟩
    | stale loads stamp restores reloads =>
      refine ⟨_, _, _, does_adapt.2 (does_load.2 ⟨loads, rfl, rfl⟩), ?_⟩
      rw [stamp]
      refine does_bind.2 ⟨store, store, disk, does_get.2 ⟨rfl, rfl, rfl⟩, ?_⟩
      refine does_bind.2 ⟨(), store, disk', does_adapt.2 restores, ?_⟩
      refine does_bind.2 ⟨_, store, disk', does_adapt.2 (does_load.2 ⟨reloads, rfl, rfl⟩), ?_⟩
      exact does_pure.2 ⟨rfl, rfl, rfl⟩

/-- How a pass starts with its targets, one after the other. -/
inductive StartsAll (fingerprint : String) (store : SnapshotStore) :
    List PassTarget → Disk → List LoadedTarget → Disk → Prop
  | nil {disk : Disk} : StartsAll fingerprint store [] disk [] disk
  | cons {target : PassTarget} {targets : List PassTarget} {loaded : LoadedTarget} {rest : List LoadedTarget}
      {disk between disk' : Disk} (first : target.Starts fingerprint store disk loaded between)
      (later : StartsAll fingerprint store targets between rest disk') :
      StartsAll fingerprint store (target :: targets) disk (loaded :: rest) disk'

/-- What loading all targets of a pass does, in their order. -/
theorem does_passLoads {targets : List PassTarget} {loaded : List LoadedTarget} :
    Does (targets.mapM (·.load fingerprint)) store disk loaded store' disk' ↔
      StartsAll fingerprint store targets disk loaded disk' ∧ store = store' := by
  induction targets generalizing disk loaded store' disk' with
  | nil =>
    rw [List.mapM_nil, does_pure]
    constructor
    · rintro ⟨rfl, same, rfl⟩
      exact ⟨.nil, same⟩
    · rintro ⟨⟨⟩, same⟩
      exact ⟨rfl, same, rfl⟩
  | cons target targets ih =>
    rw [List.mapM_cons, does_bind]
    constructor
    · rintro ⟨first, _, between, starting, later⟩
      obtain ⟨starts, rfl⟩ := does_passLoad.1 starting
      obtain ⟨rest, _, _, loading, later⟩ := does_bind.1 later
      obtain ⟨startsAll, rfl⟩ := ih.1 loading
      obtain ⟨rfl, same, rfl⟩ := does_pure.1 later
      exact ⟨.cons starts startsAll, same⟩
    · rintro ⟨starts, rfl⟩
      cases starts with
      | cons first later =>
        refine ⟨_, store, _, does_passLoad.2 ⟨first, rfl⟩, ?_⟩
        exact does_bind.2 ⟨_, store, disk', ih.2 ⟨later, rfl⟩, does_pure.2 ⟨rfl, rfl, rfl⟩⟩

/-- What a pass asks of a target that it is to instrument. -/
def LoadedTarget.Admitted (loaded : LoadedTarget) (disk : Disk) : Prop :=
  loaded.current = true ∨ loaded.module.isInstrumentable = true ∧ disk.isFile loaded.target.files.symbols = true

theorem LoadedTarget.Admitted.of_not_current {loaded : LoadedTarget} (admitted : loaded.Admitted disk)
    (other : loaded.current = false) :
    loaded.module.isInstrumentable = true ∧ disk.isFile loaded.target.files.symbols = true := by
  refine admitted.resolve_left ?_
  rw [other]
  exact Bool.false_ne_true

/-- What the checks of one target do. -/
theorem does_check {loaded : LoadedTarget} {done : Unit} :
    Does loaded.check store disk done store' disk' ↔ loaded.Admitted disk ∧ store = store' ∧ disk = disk' := by
  obtain ⟨target, module, current, restored⟩ := loaded
  unfold LoadedTarget.check LoadedTarget.Admitted
  dsimp only
  cases current with
  | true =>
    rw [if_pos rfl, does_pure]
    exact ⟨fun same => ⟨Or.inl rfl, same.2⟩, fun same => ⟨rfl, same.2⟩⟩
  | false =>
    simp only [Bool.false_eq_true, if_false, false_or]
    cases instrumentable : module.isInstrumentable with
    | false =>
      simp only [Bool.false_eq_true, if_false, false_and, iff_false]
      intro does
      obtain ⟨_, _, _, failed, -⟩ := does_bind.1 does
      exact does_throw failed
    | true =>
      simp only [if_true, true_and]
      rw [does_bind]
      constructor
      · rintro ⟨present, _, _, asking, later⟩
        obtain ⟨asked, rfl, rfl⟩ := does_hasSymbols.1 asking
        cases present with
        | true =>
          obtain ⟨-, same⟩ := does_pure.1 later
          exact ⟨asked, same⟩
        | false => exact absurd later does_throw
      · rintro ⟨asked, rfl, rfl⟩
        exact ⟨true, store, disk, does_hasSymbols.2 ⟨asked, rfl, rfl⟩, does_pure.2 ⟨rfl, rfl, rfl⟩⟩

/-- What the checks of all targets do: they pass when each of them does. -/
theorem does_checks {loaded : List LoadedTarget} {done : PUnit} :
    Does (loaded.forM LoadedTarget.check) store disk done store' disk' ↔
      (∀ each ∈ loaded, each.Admitted disk) ∧ store = store' ∧ disk = disk' := by
  induction loaded with
  | nil =>
    change Does (pure ⟨⟩ : Work PassError PUnit) store disk done store' disk' ↔ _
    rw [does_pure]
    exact ⟨fun same => ⟨fun _ member => (List.not_mem_nil member).elim, same.2⟩, fun same => ⟨rfl, same.2⟩⟩
  | cons first rest ih =>
    change Does (first.check >>= fun _ => rest.forM LoadedTarget.check) store disk done store' disk' ↔ _
    rw [does_bind, List.forall_mem_cons, and_assoc, ← ih]
    constructor
    · rintro ⟨⟨⟩, _, _, checking, later⟩
      obtain ⟨admitted, rfl, rfl⟩ := does_check.1 checking
      exact ⟨admitted, later⟩
    · rintro ⟨admitted, later⟩
      exact ⟨⟨⟩, store, disk, does_check.2 ⟨admitted, rfl, rfl⟩, later⟩

/-- What a pass does to a target: nothing if it is current, and else it backs it up and stores it instrumented. -/
inductive LoadedTarget.Instruments (loaded : LoadedTarget) (fingerprint : String) (fields : FieldTypes)
    (next : UInt32) (store : SnapshotStore) (disk : Disk) : PassStatus → UInt32 → SnapshotStore → Disk → Prop
  | current (current : loaded.current = true) :
      loaded.Instruments fingerprint fields next store disk .upToDate next store disk
  | other {entry : SnapshotEntry} {module : Module} {last : UInt32} {store' : SnapshotStore} {between disk' : Disk}
      (other : loaded.current = false)
      (backs : store.Backs disk loaded.target.name loaded.target.files entry store' between)
      (instrumented : loaded.module.instrumented fields next = .ok (module, last))
      (stores : between.Stores loaded.target.files (module.stamp fingerprint) disk') :
      loaded.Instruments fingerprint fields next store disk
      (.instrumented module.sites.length loaded.restored) last store' disk'

/-- What a pass does with one loaded target. -/
theorem does_instrument {loaded : LoadedTarget} {next last : UInt32} {status : PassStatus} :
    Does (loaded.instrument fingerprint fields next) store disk (status, last) store' disk' ↔
      loaded.Instruments fingerprint fields next store disk status last store' disk' := by
  obtain ⟨⟨name, files⟩, module, current, restored⟩ := loaded
  unfold LoadedTarget.instrument
  dsimp only
  constructor
  · intro does
    cases current with
    | true =>
      obtain ⟨same, rfl, rfl⟩ := does_pure.1 does
      cases same
      exact .current rfl
    | false =>
      obtain ⟨⟨⟩, store₁, between, discarding, later⟩ := does_bind.1 does
      obtain ⟨entry, backing⟩ := does_discard.1 discarding
      split at later
      · exact absurd later does_throw
      · rename_i module' next' instrumented
        obtain ⟨⟨⟩, _, _, storing, later⟩ := does_bind.1 later
        obtain ⟨stores, rfl⟩ := does_store.1 (does_adapt.1 storing)
        obtain ⟨same, rfl, rfl⟩ := does_pure.1 later
        cases same
        exact .other rfl (SnapshotStore.does_backup.1 (does_adapt.1 backing)) instrumented stores
  · intro instruments
    cases instruments with
    | current current =>
      cases current
      exact does_pure.2 ⟨rfl, rfl, rfl⟩
    | other other backs instrumented stores =>
      cases other
      refine does_bind.2 ⟨⟨⟩, _, _, does_discard.2 ⟨_, does_adapt.2 (SnapshotStore.does_backup.2 backs)⟩, ?_⟩
      dsimp only at instrumented ⊢
      rw [instrumented]
      exact does_bind.2 ⟨(), store', disk', does_adapt.2 (does_store.2 ⟨stores, rfl⟩), does_pure.2 ⟨rfl, rfl, rfl⟩⟩

/-- What a pass does to the targets, one after the other. -/
inductive InstrumentsAll (fingerprint : String) (fields : FieldTypes) :
    List LoadedTarget → UInt32 → SnapshotStore → Disk →
    List PassOutcome → SnapshotStore → Disk → Prop
  | nil {next : UInt32} {store : SnapshotStore} {disk : Disk} :
      InstrumentsAll fingerprint fields [] next store disk [] store disk
  | cons {loaded : LoadedTarget} {rest : List LoadedTarget} {next last : UInt32} {status : PassStatus}
      {outcomes : List PassOutcome} {store store₁ store' : SnapshotStore} {disk disk₁ disk' : Disk}
      (first : loaded.Instruments fingerprint fields next store disk status last store₁ disk₁)
      (later : InstrumentsAll fingerprint fields rest last store₁ disk₁ outcomes store' disk') :
      InstrumentsAll fingerprint fields (loaded :: rest) next store disk
      (⟨loaded.target.name, status⟩ :: outcomes) store' disk'

/-- What a pass does with all loaded targets, each starting with the id the one before ended with. -/
theorem does_instrumentLoaded {loaded : List LoadedTarget} {next : UInt32} {outcomes : List PassOutcome} :
    Does (instrumentLoaded fingerprint fields loaded next) store disk outcomes store' disk' ↔
      InstrumentsAll fingerprint fields loaded next store disk outcomes store' disk' := by
  induction loaded generalizing next store disk outcomes with
  | nil =>
    rw [instrumentLoaded, does_pure]
    constructor
    · rintro ⟨rfl, rfl, rfl⟩
      exact .nil
    · rintro ⟨⟩
      exact ⟨rfl, rfl, rfl⟩
  | cons first rest ih =>
    rw [instrumentLoaded, does_bind]
    constructor
    · rintro ⟨⟨status, last⟩, store₁, disk₁, instrumenting, later⟩
      obtain ⟨outcomes', _, _, remaining, later⟩ := does_bind.1 later
      obtain ⟨rfl, rfl, rfl⟩ := does_pure.1 later
      exact .cons (does_instrument.1 instrumenting) (ih.1 remaining)
    · rintro (_ | ⟨instruments, remaining⟩)
      refine ⟨(_, _), _, _, does_instrument.2 instruments, ?_⟩
      exact does_bind.2 ⟨_, store', disk', ih.2 remaining, does_pure.2 ⟨rfl, rfl, rfl⟩⟩

/-- A pass that succeeds: its targets are loaded, admitted and instrumented. -/
theorem does_runPass {targets : List PassTarget} {outcomes : List PassOutcome} :
    Does (runPass fingerprint targets) store disk outcomes store' disk' ↔
      ∃ loaded between, StartsAll fingerprint store targets disk loaded between ∧
        (∀ each ∈ loaded, each.Admitted between) ∧
        InstrumentsAll fingerprint (fieldTypeIn? (loaded.map (·.module))) loaded
          (siteIdAfter (LoadedTarget.usedSiteId? loaded)) store between outcomes store' disk' := by
  rw [runPass, does_bind]
  constructor
  · rintro ⟨loaded, _, between, starting, later⟩
    obtain ⟨starts, rfl⟩ := does_passLoads.1 starting
    obtain ⟨⟨⟩, _, _, checking, later⟩ := does_bind.1 later
    obtain ⟨admitted, rfl, rfl⟩ := does_checks.1 checking
    exact ⟨loaded, between, starts, admitted, does_instrumentLoaded.1 later⟩
  · rintro ⟨loaded, between, starts, admitted, instruments⟩
    refine ⟨loaded, store, between, does_passLoads.2 ⟨starts, rfl⟩, ?_⟩
    refine does_bind.2 ⟨⟨⟩, store, between, does_checks.2 ⟨admitted, rfl, rfl⟩, ?_⟩
    exact does_instrumentLoaded.2 instruments

end Faultline
