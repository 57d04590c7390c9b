import Faultline.Proofs.Project.Numbering
import Faultline.Proofs.Storage.Journal

namespace Faultline

variable {fingerprint : String} {fields : FieldTypes} {next : UInt32} {store store' : SnapshotStore}
  {disk between disk' : Disk} {target : PassTarget} {targets : List PassTarget} {loaded : LoadedTarget}
  {all : List LoadedTarget} {outcomes : List PassOutcome}

/-- A module that is up to date is loaded without a write. -/
theorem PassTarget.Starts.logs_current {made : Path × Disk → Prop}
    (starts : target.Starts fingerprint store disk loaded disk') (current : loaded.current = true) :
    Logs (target.load fingerprint) store disk loaded store disk' made := by
  cases starts with
  | unstamped _ _ | stale _ _ _ _ => cases current
  | current loads stamp =>
    rw [PassTarget.load]
    refine loads.logs.adapt.bind ?_
    rw [stamp]
    exact logs_pure

/-- Loading a target writes only when it is restored, and then only its binary and its symbols. -/
theorem PassTarget.Starts.logs (starts : target.Starts fingerprint store disk loaded disk') :
    Logs (target.load fingerprint) store disk loaded store disk' (Paired target.files disk') := by
  cases starts with
  | current loads stamp => exact PassTarget.Starts.logs_current (.current loads stamp) rfl
  | unstamped loads stamp =>
    rw [PassTarget.load]
    refine loads.logs.adapt.bind ?_
    rw [stamp]
    exact logs_pure
  | stale loads stamp restores reloads =>
    rw [PassTarget.load]
    refine loads.logs.adapt.bind ?_
    rw [stamp]
    exact logs_get.bind ((SnapshotStore.logs_restore restores).adapt.bind (reloads.logs.adapt.bind logs_pure))

/-- While the targets are loaded, files are written in pairs. After each pair some targets are loaded, and the
others will be. -/
def LoadingAt (fingerprint : String) (targets : List PassTarget) (store : SnapshotStore) (disk : Disk)
    (all : List LoadedTarget) (disk' : Disk) (entry : Path × Disk) : Prop :=
  (∃ target ∈ targets, entry.1 = target.files.binary) ∨ ∃ early later all₁ all₂, targets = early ++ later ∧
    all = all₁ ++ all₂ ∧
    StartsAll fingerprint store early disk all₁ entry.2 ∧ StartsAll fingerprint store later entry.2 all₂ disk'

/-- Every moment of loading the targets belongs to the restore of one of them. -/
theorem StartsAll.logs (starts : StartsAll fingerprint store targets disk all disk') :
    Logs (targets.mapM (·.load fingerprint)) store disk all store disk'
      (LoadingAt fingerprint targets store disk all disk') := by
  induction starts with
  | nil =>
    rw [List.mapM_nil]
    exact logs_pure
  | @cons target targets loaded rest disk between disk' first later ih =>
    rw [List.mapM_cons]
    refine (first.logs.mono fun entry paired => ?_).bind ((ih.mono fun entry loading => ?_).bind logs_pure)
    · obtain binary | rfl := paired
      · exact Or.inl ⟨target, List.mem_cons_self, binary⟩
      · exact Or.inr ⟨[target], targets, [loaded], rest, rfl, rfl, .cons first .nil, later⟩
    · obtain ⟨other, member, binary⟩ | ⟨early, remaining, all₁, all₂, rfl, rfl, earlier, onward⟩ := loading
      · exact Or.inl ⟨other, List.mem_cons_of_mem _ member, binary⟩
      · exact Or.inr ⟨target :: early, remaining, loaded :: all₁, all₂, rfl, rfl, .cons first earlier, onward⟩

/-- Targets that are all current are loaded without a write. -/
theorem StartsAll.logs_current {made : Path × Disk → Prop}
    (starts : StartsAll fingerprint store targets disk all disk')
    (current : ∀ each ∈ all, each.current = true) :
    Logs (targets.mapM (·.load fingerprint)) store disk all store disk' made := by
  induction starts with
  | nil =>
    rw [List.mapM_nil]
    exact logs_pure
  | cons first _ ih =>
    obtain ⟨here, later⟩ := List.forall_mem_cons.1 current
    rw [List.mapM_cons]
    exact (first.logs_current here).bind ((ih later).bind logs_pure)

/-- The checks write nothing. -/
theorem LoadedTarget.Admitted.logs {made : Path × Disk → Prop} (admitted : loaded.Admitted disk) :
    Logs loaded.check store disk () store disk made := by
  obtain ⟨target, module, current, restored⟩ := loaded
  unfold LoadedTarget.check
  dsimp only
  obtain isCurrent | ⟨instrumentable, present⟩ := admitted
  · rw [if_pos isCurrent]
    exact logs_pure
  · cases current with
    | true => exact logs_pure
    | false =>
      dsimp only at instrumentable present
      rw [if_neg Bool.false_ne_true, if_pos instrumentable]
      refine (logs_isFile target.files.symbols).bind ?_
      rw [present]
      exact logs_pure

theorem logs_checks {made : Path × Disk → Prop} (admitted : ∀ each ∈ all, each.Admitted disk) :
    Logs (all.forM LoadedTarget.check) store disk ⟨⟩ store disk made := by
  induction all with
  | nil => exact logs_pure
  | cons first rest ih =>
    obtain ⟨here, later⟩ := List.forall_mem_cons.1 admitted
    exact here.logs.bind (ih later)

/-- A moment of the backup of a module that is to be instrumented. -/
def LoadedTarget.BackingAt (loaded : LoadedTarget) (store : SnapshotStore) (disk between : Disk) : Prop :=
  loaded.current = false ∧ ∃ entry store₁ disk₁ store₂ disk₂ store' disk',
    store.BacksVia disk loaded.target.name loaded.target.files entry store₁ disk₁ store₂ disk₂ store' disk' ∧
      (between = disk₁ ∨ between = disk₂ ∨ between = disk')

/-- A current target is passed over without a write. -/
theorem LoadedTarget.Instruments.logs_current {made : Path × Disk → Prop} {status : PassStatus} {last : UInt32}
    (instruments : loaded.Instruments fingerprint fields next store disk status last store' disk')
    (current : loaded.current = true) :
    Logs (loaded.instrument fingerprint fields next) store disk (status, last) store' disk' made := by
  obtain ⟨target, module, isCurrent, restored⟩ := loaded
  cases current
  unfold LoadedTarget.instrument
  cases instruments with
  | current _ => exact logs_pure
  | other other _ _ _ => cases other

/-- A target is instrumented by writing to the store first and to its own pair of files last. -/
theorem LoadedTarget.Instruments.logs {status : PassStatus} {last : UInt32}
    (instruments : loaded.Instruments fingerprint fields next store disk status last store' disk') :
    Logs (loaded.instrument fingerprint fields next) store disk (status, last) store' disk' fun entry =>
      Paired loaded.target.files disk' entry ∨ loaded.BackingAt store disk entry.2 := by
  obtain ⟨⟨name, files⟩, module, current, restored⟩ := loaded
  unfold LoadedTarget.instrument
  dsimp only
  cases instruments with
  | current current =>
    cases current
    exact logs_pure
  | other other backs instrumented stores =>
    cases other
    obtain ⟨store₁, disk₁, store₂, disk₂, via⟩ := backs
    have via : store.BacksVia disk name files _ store₁ disk₁ store₂ disk₂ store' _ := via
    refine (via.logs.mono fun entry moment => Or.inr ⟨rfl, _, _, _, _, _, _, _, via, moment⟩).adapt.discard.bind ?_
    dsimp only at instrumented ⊢
    rw [instrumented]
    exact (stores.logs.mono fun _ => Or.inl).adapt.bind logs_pure

/-- While the modules are instrumented: some are done, and the first of the others may be half backed up. -/
def InstrumentingAt (fingerprint : String) (fields : FieldTypes) (all : List LoadedTarget) (next : UInt32)
    (store : SnapshotStore) (disk : Disk) (outcomes : List PassOutcome) (store' : SnapshotStore)
    (disk' : Disk) (entry : Path × Disk) : Prop :=
  (∃ each ∈ all, entry.1 = each.target.files.binary) ∨ ∃ ahead behind outcomes₁ outcomes₂ last store₁ disk₁,
    all = ahead ++ behind ∧ outcomes = outcomes₁ ++ outcomes₂ ∧ last = next + .ofNat (newSites outcomes₁) ∧
    InstrumentsAll fingerprint fields ahead next store disk outcomes₁ store₁ disk₁ ∧
    InstrumentsAll fingerprint fields behind last store₁ disk₁ outcomes₂ store' disk' ∧
    (entry.2 = disk₁ ∨ ∃ loaded rest, behind = loaded :: rest ∧ loaded.BackingAt store₁ disk₁ entry.2)

theorem LoadedTarget.Instruments.last_eq {status : PassStatus} {last : UInt32}
    (instruments : loaded.Instruments fingerprint fields next store disk status last store' disk') :
    last = next + .ofNat status.newSites := by
  cases instruments with
  | current _ => simp [PassStatus.newSites]
  | other _ _ instrumented _ => exact (Module.instrumented_numbered instrumented).2

/-- Every moment of instrumenting belongs to the backup or to the two writes of one target. -/
theorem InstrumentsAll.logs
    (instruments : InstrumentsAll fingerprint fields all next store disk outcomes store' disk') :
    Logs (instrumentLoaded fingerprint fields all next) store disk outcomes store' disk'
      (InstrumentingAt fingerprint fields all next store disk outcomes store' disk') := by
  induction instruments with
  | nil =>
    rw [instrumentLoaded]
    exact logs_pure
  | @cons loaded rest next last status outcomes store store₁ store' disk disk₁ disk' first later ih =>
    rw [instrumentLoaded]
    refine (first.logs.mono fun entry moment => ?_).bind ((ih.mono fun entry moment => ?_).bind logs_pure)
    · obtain (binary | rfl) | backing := moment
      · exact Or.inl ⟨loaded, List.mem_cons_self, binary⟩
      · refine Or.inr ⟨[loaded], rest, [_], outcomes, last, store₁, disk₁, rfl, rfl, ?_, .cons first .nil,
          later, Or.inl rfl⟩
        rw [first.last_eq]
        rfl
      · refine Or.inr ⟨[], loaded :: rest, [], _, next, store, disk, rfl, rfl, ?_, .nil, .cons first later,
          Or.inr ⟨loaded, rest, rfl, backing⟩⟩
        simp [newSites]
    · obtain ⟨each, member, binary⟩ |
        ⟨ahead, behind, outcomes₁, outcomes₂, onward, store₂, disk₂, rfl, rfl, counted, earlier, remaining,
          moment⟩ := moment
      · exact Or.inl ⟨each, List.mem_cons_of_mem _ member, binary⟩
      · refine Or.inr ⟨loaded :: ahead, behind, _ :: outcomes₁, outcomes₂, onward, store₂, disk₂, rfl, rfl, ?_,
          .cons first earlier, remaining, moment⟩
        rw [counted, first.last_eq, newSites_cons, UInt32.ofNat_add, UInt32.add_assoc]

/-- Modules that are up to date are left alone. -/
theorem InstrumentsAll.logs_current {made : Path × Disk → Prop}
    (instruments : InstrumentsAll fingerprint fields all next store disk outcomes store' disk')
    (current : ∀ each ∈ all, each.current = true) :
    Logs (instrumentLoaded fingerprint fields all next) store disk outcomes store' disk' made := by
  induction instruments with
  | nil =>
    rw [instrumentLoaded]
    exact logs_pure
  | cons first _ ih =>
    obtain ⟨here, later⟩ := List.forall_mem_cons.1 current
    rw [instrumentLoaded]
    exact (first.logs_current here).bind ((ih later).bind logs_pure)

/-- The moments of a pass: it loads the targets, and then it instruments their modules. -/
def PassAt (fingerprint : String) (targets : List PassTarget) (store : SnapshotStore) (disk : Disk)
    (all : List LoadedTarget) (between : Disk) (outcomes : List PassOutcome) (store' : SnapshotStore)
    (disk' : Disk) (entry : Path × Disk) : Prop :=
  LoadingAt fingerprint targets store disk all between entry ∨
    InstrumentingAt fingerprint (fieldTypeIn? (all.map (·.module))) all
    (siteIdAfter (LoadedTarget.usedSiteId? all)) store between
      outcomes store' disk' entry

theorem StartsAll.logs_runPass (starts : StartsAll fingerprint store targets disk all between)
    (admitted : ∀ each ∈ all, each.Admitted between)
    (instruments : InstrumentsAll fingerprint (fieldTypeIn? (all.map (·.module))) all
      (siteIdAfter (LoadedTarget.usedSiteId? all)) store between outcomes store' disk') :
    Logs (runPass fingerprint targets) store disk outcomes store' disk'
      (PassAt fingerprint targets store disk all between outcomes store' disk') := by
  rw [runPass]
  exact (starts.logs.mono fun _ => Or.inl).bind ((logs_checks admitted).bind (instruments.logs.mono fun _ => Or.inr))

end Faultline
