import Faultline.Proofs.Project.Halfway
import Faultline.Proofs.Project.Idempotence

namespace Faultline

variable {fingerprint : String} {fields : FieldTypes} {next last : UInt32} {store store' : SnapshotStore}
  {start disk between disk' : Disk} {target : PassTarget} {targets targets' : List PassTarget} {loaded : LoadedTarget}
  {all all' ahead ahead' behind : List LoadedTarget} {outcomes outcomes₁ outcomes₂ : List PassOutcome}

/-- At a moment of instrumenting the store can be opened, and what is left to do can be done from there. -/
theorem InstrumentsAll.reopens {store₁ : SnapshotStore} {disk₁ : Disk}
    (instruments : InstrumentsAll fingerprint fields behind last store₁ disk₁ outcomes₂ store' disk')
    (moment : disk = disk₁ ∨ ∃ loaded rest, behind = loaded :: rest ∧ loaded.BackingAt store₁ disk₁ disk)
    (reopenable : store₁.Reopenable disk₁) (placed : disk₁.Placed store₁.root (behind.map (·.target)))
    (admitted : ∀ each ∈ behind, each.Admitted disk₁) :
    ∃ again outcomes, again.root = store₁.root ∧ again.Synced disk ∧
      Disk.Changes (disk₁.Stored store₁.root) disk₁ disk ∧
      InstrumentsAll fingerprint fields behind last again disk outcomes store' disk' := by
  obtain rfl | ⟨loaded, rest, rfl, other, entry, store₂, disk₂, store₃, disk₃, store₄, disk₄, via, moment⟩ := moment
  · exact ⟨store₁, outcomes₂, rfl, reopenable.synced, .refl disk, instruments⟩
  · have present := ((admitted loaded List.mem_cons_self).of_not_current other).2
    obtain ⟨again, root, opened, changes, backs⟩ :=
      via.reopens reopenable present (placed.outside _ List.mem_cons_self) moment
    cases instruments with
    | cons first later =>
      cases first with
      | current current =>
        rw [current] at other
        cases other
      | other _ backs' instrumented stores =>
        obtain ⟨rfl, rfl, rfl⟩ := (SnapshotStore.does_backup.2 backs').unique
          (SnapshotStore.does_backup.2 ⟨_, _, _, _, via⟩)
        exact ⟨again, _, root, opened, changes, .cons (.other other backs instrumented stores) later⟩

/-- A pass that succeeds can be cut short after any write but that of a target's binary, whose symbols are not
those that go with it then. Started anew with the store as it stands, the pass succeeds, and it leaves the
disk as the whole pass does. -/
theorem runPass_resumes (ordered : start.Ordered store.root targets) (settled : start.Settled store.root)
    (opens : start.Opens store.root { store with writes := 0 })
    (loads : Does (targets.mapM (·.load fingerprint)) store start all store between)
    (unstamped : ∀ each ∈ all, each.current = false → each.module.stampOf fingerprint = .unstamped)
    (distinct : ∀ each ∈ all, (each.module.methods.map Method.qualifiedName).Nodup)
    (fits : ∀ each ∈ all, each.current = false → ∀ next last done,
      each.module.instrumented (fieldTypeIn? (all.map (·.module))) next = .ok (done, last) →
      (done.stamp fingerprint).wrapped.Fits)
    (pass : Does (runPass fingerprint targets) store start outcomes store' disk')
    (range : firstFree (usedIds all start) + newSites outcomes ≤ 2 ^ 32) :
    start.Resumes fingerprint targets store.root disk' ∧
      Logs (runPass fingerprint targets) store start outcomes store' disk' fun entry =>
        (∃ target ∈ targets, entry.1 = target.files.binary) ∨
            entry.2.Resumes fingerprint targets store.root disk' := by
  obtain ⟨_, _, starts, admitted, instruments⟩ := does_runPass.1 pass
  obtain ⟨rfl, -, rfl⟩ := loads.unique (does_passLoads.2 ⟨starts, rfl⟩)
  have reopenable : store.Reopenable start := Or.inr ⟨opens, ordered.sound, settled⟩
  refine ⟨resumes_of_loading ordered reopenable (List.forall_mem_nil _) .nil starts admitted instruments, ?_⟩
  refine (starts.logs_runPass admitted instruments).mono fun entry moment => ?_
  obtain (binary | ⟨early, later, all₁, all₂, rfl, rfl, earlier, onward⟩) |
    (⟨each, member, binary⟩ | ⟨ahead, behind, outcomes₁, outcomes₂, last, store₁, disk₁, rfl, rfl, rfl, done,
      left, moment⟩) :=
      moment
  · exact Or.inl binary
  -- whatever has been restored so far is found without a stamp
  · refine Or.inr (resumes_of_loading ordered reopenable (fun each member => ?_) earlier onward admitted instruments)
    exact unstamped each (List.mem_append_left all₂ member)
  · exact Or.inl ⟨each.target, starts.targets_eq ▸ List.mem_map_of_mem member, binary⟩
  -- the modules ahead are found up to date, and the backup that may be under way is made once more
  · have placed := ordered.placed.changes starts.changes
    rw [← starts.targets_eq] at placed
    have half : Halfway fingerprint start between store ahead behind outcomes₁ store₁ disk₁ disk₁ := {
      placed, admitted, distinct, fits
      found := fun each member _ => starts.found ordered unstamped each member
      used := starts.siteIds ordered.placed fun each member _ =>
        ordered.sound.steady (ordered.anchored _ (starts.targets_eq ▸ List.mem_map_of_mem member)).symbols
      instruments := done
      range := by
        rw [newSites_append] at range
        omega
      after := .refl disk₁ }
    have changes := done.changes_stored
    have behind' : disk₁.Placed store₁.root (behind.map (·.target)) := by
      rw [done.root]
      exact (placed.sublist ((List.sublist_append_right ahead behind).map _)).changes changes
    have reopenable₁ := done.reopenable (starts.reopenable reopenable ordered.placed) half.front
    obtain ⟨again, outcomes, root, opened, after, onward⟩ :=
      left.reopens moment reopenable₁ behind' half.admitted_behind
    rw [changes.stored, done.root] at after
    rw [← starts.targets_eq]
    exact Or.inr ({ half with after }.resumes opened (root.trans done.root) onward)

/-! A module up to date beside one that is not instrumented yet. -/

/-- Two targets, one current and one to be instrumented, and every point between two writes. -/
theorem runPass_resumes_pair : ∃ outcomes store' disk',
    Does (runPass "f1" [stampedTarget ⟨"B.isym"⟩, plainTarget]) pairStore pairDisk outcomes store' disk' ∧
    pairDisk.Resumes "f1" [stampedTarget ⟨"B.isym"⟩, plainTarget] pairStore.root disk' ∧
    Logs (runPass "f1" [stampedTarget ⟨"B.isym"⟩, plainTarget]) pairStore pairDisk outcomes store' disk' fun entry =>
      (∃ target ∈ [stampedTarget ⟨"B.isym"⟩, plainTarget], entry.1 = target.files.binary) ∨
        entry.2.Resumes "f1" [stampedTarget ⟨"B.isym"⟩, plainTarget] pairStore.root disk' := by
  have place : pairDisk.placeOf ⟨"B.isym"⟩ = ["B.isym"] := by with_unfolding_all decide
  have level : ∀ path ∈ [⟨"B.ivm"⟩, ⟨"B.isym"⟩, plainTarget.files.binary, plainTarget.files.symbols, pairStore.root],
      ".." ∉ Path.steps path := by
    with_unfolding_all decide
  have settled :
      ∀ path ∈ [⟨"B.ivm"⟩, ⟨"B.isym"⟩, plainTarget.files.binary, plainTarget.files.symbols, pairStore.root],
      pairDisk.Settled path := fun path listed climbs => absurd climbs (level path listed)
  have ordered : pairDisk.Ordered pairStore.root [stampedTarget ⟨"B.isym"⟩, plainTarget] := by
    refine ⟨pairDisk_sound, ?_, (pairDisk_separate place (by decide)).placed⟩
    exact List.forall_mem_cons.2 ⟨⟨settled _ (by simp [stampedTarget]), settled _ (by simp [stampedTarget])⟩,
      List.forall_mem_singleton.2 ⟨settled _ (by simp), settled _ (by simp)⟩⟩
  have stamp : doneModule.wrapped.stampOf "f1" = .current := by decide
  have ids : pairDisk.siteIds (stampedTarget ⟨"B.isym"⟩).files = [0] := pairDisk_bears.siteIds
  obtain ⟨outcomes, store', disk', pass, count, -⟩ := pairDisk_pass pairDisk_loads.1 stamp
  refine ⟨outcomes, store', disk', pass, runPass_resumes ordered (settled _ (by simp)) pairDisk_opens
    (does_passLoads.2 ⟨pairDisk_starts pairDisk_loads.1 stamp, rfl⟩) ?_ (pairDisk_distinct rfl) pairDisk_fits pass
    (by rw [pairDisk_usedIds, ids, count]; decide)⟩
  exact List.forall_mem_cons.2 ⟨fun current => (by cases current), List.forall_mem_singleton.2 fun _ => rfl⟩

/-- A pass over one unstamped target, step by step. -/
theorem does_runPass_single {target : PassTarget} {module done : Module} {last : UInt32}
    {entry : SnapshotEntry} {between : Disk} (loads : disk.Loads target.files module)
    (unstamped : module.stampOf fingerprint = .unstamped)
    (admitted : module.isInstrumentable = true ∧ disk.isFile target.files.symbols = true)
    (backs : store.Backs disk target.name target.files entry store' between)
    (instrumented : module.instrumented (fieldTypeIn? [module]) 0 = .ok (done, last))
    (stores : between.Stores target.files (done.stamp fingerprint) disk') :
    Does (runPass fingerprint [target]) store disk [⟨target.name, .instrumented done.sites.length false⟩]
      store' disk' := by
  refine does_runPass.2 ⟨[⟨target, module, false, false⟩], disk, .cons (.unstamped loads unstamped) .nil, ?_, ?_⟩
  · exact List.forall_mem_singleton.2 (Or.inr admitted)
  · exact .cons (.other rfl backs instrumented stores) .nil

/-- The first target of a pass that succeeds can be loaded. -/
theorem Does.runPass_loads (pass : Does (runPass fingerprint (target :: targets)) store disk outcomes store' disk') :
    ∃ module, disk.Loads target.files module := by
  obtain ⟨_, _, starts, -, -⟩ := does_runPass.1 pass
  cases starts with
  | cons first _ =>
    cases first with
    | current loads _ | unstamped loads _ | stale loads _ _ _ => exact ⟨_, loads⟩

/-- After one of the writes the files form no module. -/
def Journal.tears (journal : Journal) (files : ModuleFiles) : Bool :=
  journal.written.any fun entry =>
    (Work.ending (files.load : Work ModuleError Module) pairStore entry.2).1.1.toOption.isNone

/-- A journal that tears a target has a point at which the target does not load. -/
theorem Journal.exists_of_tears {journal : Journal} (torn : journal.tears target.files = true) :
    ∃ entry ∈ journal.written, ∀ module, ¬ entry.2.Loads target.files module := by
  obtain ⟨entry, listed, none⟩ := List.any_eq_true.1 torn
  refine ⟨entry, listed, fun module loads => ?_⟩
  have ending : Work.ending (target.files.load : Work ModuleError Module) pairStore entry.2 =
      ((.ok module, pairStore), entry.2) :=
    does_load.2 ⟨loads, rfl, rfl⟩
  rw [ending] at none
  cases none

/-- A pass that is cut short between the two files of a target leaves a binary whose symbols are those of the
module before. That cannot be loaded, so that no other pass succeeds. -/
theorem runPass_resumes_torn : pairDisk.Opens pairStore.root pairStore ∧ ∃ outcomes store' disk' written,
    Does (runPass "f1" [plainTarget]) pairStore pairDisk outcomes store' disk' ∧
    Logged.ending (runPass "f1" [plainTarget]) pairStore ⟨pairDisk, []⟩ = ((.ok outcomes, store'), ⟨disk', written⟩) ∧
    ∃ entry ∈ written, ∀ fingerprint store again later left,
      ¬ Does (runPass fingerprint [plainTarget]) store entry.2 again later left := by
  obtain ⟨_, _, _, backs, -⟩ := pairDisk_backs
  obtain ⟨-, _, stores⟩ := pairDisk_stores backs 0
  have pass := does_runPass_single (pairDisk_plain.loads (by decide)) rfl
    ⟨rfl, Disk.isFile_iff.2 ⟨_, pairDisk_plain.symbols⟩⟩ backs (readModule_instrumented "A" _ 0) stores
  have torn : (Logged.ending (runPass "f1" [plainTarget]) pairStore ⟨pairDisk, []⟩).2.tears
      plainTarget.files = true := by
    decide +kernel
  obtain ⟨_, _, starts, admitted, instruments⟩ := does_runPass.1 pass
  obtain ⟨written, ending, -⟩ := starts.logs_runPass admitted instruments
  have journaled := ending []
  rw [journaled] at torn
  obtain ⟨entry, listed, never⟩ := Journal.exists_of_tears torn
  refine ⟨pairDisk_opens, _, _, _, _, pass, journaled, entry, listed,
    fun fingerprint store again later left resumed => ?_⟩
  obtain ⟨module, loads⟩ := resumed.runPass_loads
  exact never module loads

end Faultline
