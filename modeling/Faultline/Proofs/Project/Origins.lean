import Faultline.Proofs.Project.Idempotence
import Faultline.Proofs.Storage.Alike
import Faultline.Proofs.Storage.Backups

namespace Faultline

/-- A target with what its files held before any pass, the module in them, and what instrumenting makes of that. -/
structure Origin where
  target : PassTarget
  bytes : Bytes
  bytes' : Bytes
  module : Module
  done : Module

namespace Origin

/-- The files hold what they did before any pass. -/
def Stands (origin : Origin) (disk : Disk) : Prop := disk.Contains origin.target.files origin.bytes origin.bytes'

/-- The files hold what a pass makes of the module. -/
def Stamped (origin : Origin) (fingerprint : String) (disk : Disk) : Prop :=
  disk.Bears origin.target.files (origin.done.stamp fingerprint)

/-- What the files held before any pass is backed up. -/
def Secured (origin : Origin) (store : SnapshotStore) (disk : Disk) : Prop :=
  store.Secures disk origin.target.name origin.bytes origin.bytes'

/-- Whatever the disk, the files as they were before any pass hold a module that no pass has been over. -/
structure Fresh (origin : Origin) : Prop where
  loads : ∀ disk, origin.Stands disk → disk.Loads origin.target.files origin.module
  unstamped : ∀ fingerprint, origin.module.stampOf fingerprint = .unstamped
  instrumentable : origin.module.isInstrumentable = true
  distinct : (origin.done.methods.map Method.qualifiedName).Nodup

def loaded (origin : Origin) (restored : Bool) : LoadedTarget := ⟨origin.target, origin.module, false, restored⟩

/-- The modules are instrumented one after the other, with their sites numbered through. -/
inductive Numbered (fields : FieldTypes) : List Origin → UInt32 → Prop
  | nil {next : UInt32} : Numbered fields [] next
  | cons {origin : Origin} {rest : List Origin} {next last : UInt32}
      (first : origin.module.instrumented fields next = .ok (origin.done, last)) (later : Numbered fields rest last) :
      Numbered fields (origin :: rest) next

end Origin

open Origin

variable {fingerprint fingerprint' : String} {fields : FieldTypes} {next : UInt32} {store store' : SnapshotStore}
  {disk disk' : Disk} {outcomes : List PassOutcome} {origins : List Origin} {all : List LoadedTarget}

/-- All files, as they were before any pass, are loaded. -/
theorem startsAll_of_stands (fingerprint : String) (store : SnapshotStore) (fresh : ∀ origin ∈ origins, origin.Fresh)
    (stands : ∀ origin ∈ origins, origin.Stands disk) :
    StartsAll fingerprint store (origins.map (·.target)) disk (origins.map (·.loaded false)) disk := by
  induction origins with
  | nil => exact .nil
  | cons origin rest ih =>
    obtain ⟨here, later⟩ := List.forall_mem_cons.1 fresh
    obtain ⟨stands, stand⟩ := List.forall_mem_cons.1 stands
    exact .cons (.unstamped (here.loads disk stands) (here.unstamped fingerprint)) (ih later stand)

/-- Modules with another stamp are brought back from their backups. -/
theorem startsAll_of_stamped (fresh : ∀ origin ∈ origins, origin.Fresh) (other : fingerprint ≠ fingerprint')
    (fits : ∀ origin ∈ origins, (origin.done.stamp fingerprint).wrapped.Fits)
    (placed : disk.Placed store.root (origins.map (·.target)))
    (stamped : ∀ origin ∈ origins, origin.Stamped fingerprint disk)
    (secured : ∀ origin ∈ origins, origin.Secured store disk) :
    ∃ disk', StartsAll fingerprint' store (origins.map (·.target)) disk (origins.map (·.loaded true)) disk' ∧
      ∀ origin ∈ origins, origin.Stands disk' := by
  induction origins generalizing disk with
  | nil => exact ⟨disk, .nil, fun _ member => (List.not_mem_nil member).elim⟩
  | cons origin rest ih =>
    obtain ⟨here, fresh⟩ := List.forall_mem_cons.1 fresh
    obtain ⟨fit, fits⟩ := List.forall_mem_cons.1 fits
    obtain ⟨bears, stamped⟩ := List.forall_mem_cons.1 stamped
    obtain ⟨secures, secured⟩ := List.forall_mem_cons.1 secured
    obtain ⟨between, does, stands⟩ := secures.restores bears (placed.own _ List.mem_cons_self)
      (placed.outside _ List.mem_cons_self)
    have stale : (origin.done.stamp fingerprint).wrapped.stampOf fingerprint' = .stale fingerprint := by
      rw [Module.stampOf_wrapped, Module.stampOf_stamp, if_neg other]
    have first : origin.target.Starts fingerprint' store disk (origin.loaded true) between :=
      .stale (bears.loads fit here.distinct) stale does (here.loads between stands)
    have spares : ∀ origin ∈ rest, disk.Spares origin.target.files between := fun _ member =>
      first.changes.spares fun place held held' => placed.head_apart held' _ (List.mem_map_of_mem member) held
    obtain ⟨disk', later, stand⟩ := ih fresh fits (placed.tail.changes first.changes)
      (fun origin member => (stamped origin member).spared (spares origin member))
      (fun origin member => (secured origin member).changes first.changes fun place stored held =>
        placed.outside _ List.mem_cons_self place held stored)
    refine ⟨disk', .cons first later, List.forall_mem_cons.2 ⟨stands.spared (later.changes.spares ?_), stand⟩⟩
    rintro place held ⟨target, member, held'⟩
    exact (placed.changes first.changes).head_apart held target member held'

/-- Modules that are backed up already are instrumented. -/
theorem instrumentsAll_of_secured (fingerprint : String) (numbered : Numbered fields origins next)
    (placed : disk.Placed store.root (origins.map (·.target))) (stands : ∀ origin ∈ origins, origin.Stands disk)
    (secured : ∀ origin ∈ origins, origin.Secured store disk) :
    ∃ outcomes disk',
      InstrumentsAll fingerprint fields (origins.map (·.loaded true)) next store disk outcomes store disk' ∧
      Disk.Changes (fun place => ∃ origin ∈ origins, disk.Holds origin.target.files place) disk disk' ∧
      ∀ origin ∈ origins, origin.Stamped fingerprint disk' := by
  induction numbered generalizing disk with
  | nil => exact ⟨[], disk, .nil, .refl _, fun _ member => (List.not_mem_nil member).elim⟩
  | @cons origin rest next last first _ ih =>
    obtain ⟨stand, stands⟩ := List.forall_mem_cons.1 stands
    obtain ⟨secures, secured⟩ := List.forall_mem_cons.1 secured
    have own := placed.own _ List.mem_cons_self
    obtain ⟨between, stores⟩ := Disk.Stores.of_prepared stand.prepared stand own (origin.done.stamp fingerprint)
    have spares : ∀ origin ∈ rest, disk.Spares origin.target.files between := fun _ member =>
      stores.changes.spares fun place held held' => placed.head_apart held' _ (List.mem_map_of_mem member) held
    obtain ⟨outcomes, disk', later, changes, stamped⟩ := ih (placed.tail.changes stores.changes)
      (fun origin member => (stands origin member).spared (spares origin member))
      (fun origin member => (secured origin member).changes stores.changes fun place stored held =>
        placed.outside _ List.mem_cons_self place held stored)
    have here : (origin.loaded true).Instruments fingerprint fields next store disk _ last store between :=
      .other rfl (secures.backs stand) first stores
    refine ⟨_, disk', .cons here later, ?_,
      List.forall_mem_cons.2 ⟨(stores.bears own).spared (changes.spares ?_), stamped⟩⟩
    · refine (stores.changes.mono fun place held => ⟨origin, List.mem_cons_self, held⟩).trans (changes.mono ?_)
      rintro place ⟨other, member, held⟩
      rw [stores.changes.holds] at held
      exact ⟨other, List.mem_cons_of_mem _ member, held⟩
    · rintro place held ⟨other, member, held'⟩
      exact (placed.changes stores.changes).head_apart held _ (List.mem_map_of_mem member) held'

/-- Targets that are not current hold no id that the allocator has to pass over. -/
theorem usedSiteId?_loaded (origins : List Origin) (restored : Bool) :
    LoadedTarget.usedSiteId? (origins.map (·.loaded restored)) = none := by
  have none : (origins.map (·.loaded restored)).filter (·.current) = [] := by
    rw [List.filter_eq_nil_iff]
    refine List.forall_mem_map.2 fun origin _ => ?_
    rw [loaded]
    exact Bool.false_ne_true
  rw [LoadedTarget.usedSiteId?, none]
  rfl

/-- A pass that has loaded the files as they were before any pass goes on to instrument their modules. -/
theorem does_runPass_loaded {targets : List PassTarget} {restored : Bool} {between : Disk}
    (fresh : ∀ origin ∈ origins, origin.Fresh)
    (starts : StartsAll fingerprint store targets disk (origins.map (·.loaded restored)) between)
    (stands : ∀ origin ∈ origins, origin.Stands between) :
    Does (runPass fingerprint targets) store disk outcomes store' disk' ↔
      InstrumentsAll fingerprint (fieldTypeIn? (origins.map (·.module)))
        (origins.map (·.loaded restored)) 0 store between
        outcomes store' disk' := by
  have modules : (origins.map (·.loaded restored)).map (·.module) = origins.map (·.module) := by
    rw [List.map_map]
    rfl
  have first : siteIdAfter (LoadedTarget.usedSiteId? (origins.map (·.loaded restored))) = 0 := by
    rw [usedSiteId?_loaded]
    rfl
  have admitted : ∀ each ∈ origins.map (·.loaded restored), each.Admitted between :=
    List.forall_mem_map.2 fun origin member =>
      Or.inr ⟨(fresh origin member).instrumentable, Disk.isFile_iff.2 ⟨_, (stands origin member).symbols⟩⟩
  rw [does_runPass]
  constructor
  · rintro ⟨all, between', starts', -, instruments⟩
    obtain ⟨rfl, -, rfl⟩ := (does_passLoads.2 ⟨starts, rfl⟩).unique (does_passLoads.2 ⟨starts', rfl⟩)
    rwa [modules, first] at instruments
  · intro instruments
    refine ⟨_, between, starts, admitted, ?_⟩
    rwa [modules, first]

/-! Rewriting what has been rewritten. -/

/-- The state that a pass leaves: every module is there with the stamp, and what its files held before any
pass is backed up. -/
structure Rewritten (origins : List Origin) (fingerprint : String) (store : SnapshotStore) (disk : Disk) : Prop where
  placed : disk.Placed store.root (origins.map (·.target))
  stamped : ∀ origin ∈ origins, origin.Stamped fingerprint disk
  prepared : ∀ origin ∈ origins, disk.Prepared origin.target.files
  secured : ∀ origin ∈ origins, origin.Secured store disk
  synced : store.Synced disk

namespace Rewritten

/-- A pass for the same fingerprint leaves everything alone. -/
theorem again (rewritten : Rewritten origins fingerprint store disk) (fresh : ∀ origin ∈ origins, origin.Fresh)
    (fits : ∀ origin ∈ origins, (origin.done.stamp fingerprint).wrapped.Fits) :
    ∃ outcomes, Does (runPass fingerprint (origins.map (·.target))) store disk outcomes store disk := by
  refine ⟨_, does_runPass_of_current (List.forall_mem_map.2 fun origin member => ?_)⟩
  refine ⟨(origin.done.stamp fingerprint).wrapped, ?_, ?_⟩
  · exact (rewritten.stamped origin member).loads (fits origin member) (fresh origin member).distinct
  · rw [Module.stampOf_wrapped, Module.stampOf_stamp, if_pos rfl]

/-- A pass for another fingerprint starts from the backups. -/
theorem anew (rewritten : Rewritten origins fingerprint store disk) (fresh : ∀ origin ∈ origins, origin.Fresh)
    (fits : ∀ origin ∈ origins, (origin.done.stamp fingerprint).wrapped.Fits)
    (numbered : Numbered (fieldTypeIn? (origins.map (·.module))) origins 0) (other : fingerprint ≠ fingerprint') :
    ∃ outcomes disk', Does (runPass fingerprint' (origins.map (·.target))) store disk outcomes store disk' ∧
      Disk.Changes (fun place => ∃ target ∈ origins.map (·.target), disk.Holds target.files place) disk disk' ∧
      Rewritten origins fingerprint' store disk' := by
  obtain ⟨between, starts, stands⟩ :=
    startsAll_of_stamped fresh other fits rewritten.placed rewritten.stamped rewritten.secured
  have outside : ∀ place, disk.Stored store.root place → ¬ ∃ target ∈ origins.map (·.target),
      disk.Holds target.files place :=
    fun place stored ⟨target, member, held⟩ => rewritten.placed.outside target member place held stored
  obtain ⟨outcomes, disk', instruments, later, stamped⟩ := instrumentsAll_of_secured fingerprint' numbered
    (rewritten.placed.changes starts.changes) stands
    (fun origin member => (rewritten.secured origin member).changes starts.changes outside)
  have changes : Disk.Changes (fun place => ∃ target ∈ origins.map (·.target), disk.Holds target.files place)
      disk disk' := by
    refine starts.changes.trans (later.mono ?_)
    rintro place ⟨origin, member, held⟩
    rw [starts.changes.holds] at held
    exact ⟨_, List.mem_map_of_mem member, held⟩
  refine ⟨outcomes, disk', (does_runPass_loaded fresh starts stands).2 instruments, changes, ?_⟩
  exact {
    placed := rewritten.placed.changes changes
    stamped := stamped
    prepared := fun origin member => (rewritten.prepared origin member).changes changes
    secured := fun origin member => (rewritten.secured origin member).changes changes outside
    synced := instruments.synced (starts.synced rewritten.synced rewritten.placed)
      ((starts.targets_eq ▸ rewritten.placed).changes starts.changes) }

end Rewritten

/-! The first pass. -/

/-- Where a pass for one fingerprint succeeds, one for any other does: only the binaries that it writes differ. -/
theorem InstrumentsAll.alike {touched : Place → Prop} {other : Disk}
    (instruments : InstrumentsAll fingerprint fields all next store disk outcomes store' disk')
    (fingerprint' : String) (alike : Disk.Alike touched disk other)
    (placed : disk.Placed store.root (all.map (·.target)))
    (untouched : ∀ each ∈ all, ∀ place, disk.Holds each.target.files place → ¬ touched place) :
    ∃ other', InstrumentsAll fingerprint' fields all next store other outcomes store' other' := by
  induction instruments generalizing touched other with
  | nil => exact ⟨other, .nil⟩
  | @cons loaded rest next last status outcomes store store₁ store' disk disk₁ disk' first _ ih =>
    have around := placed.changes first.changes
    rw [← first.root] at around
    have same := first.changes.holds
    cases first with
    | current current =>
      obtain ⟨other', later⟩ := ih alike around.tail fun each member => untouched each (List.mem_cons_of_mem _ member)
      exact ⟨other', .cons (.current current) later⟩
    | @other _ done _ _ between _ notCurrent backs instrumented stores =>
      obtain ⟨between', backs', alike₁⟩ := backs.alike alike (untouched _ List.mem_cons_self)
      obtain ⟨next', stores', alike₂⟩ := alike₁.stores stores (done.stamp fingerprint') rfl
      obtain ⟨other', later⟩ := ih alike₂ around.tail fun each member place held => by
        rw [same] at held
        rintro (already | binary)
        · exact untouched each (List.mem_cons_of_mem _ member) place held already
        · rw [backs.changes.placeOf] at binary
          exact placed.head_apart (Or.inl binary) _ (List.mem_map_of_mem member) held
      exact ⟨other', .cons (.other notCurrent backs' instrumented stores') later⟩

/-- What is backed up stays so while modules of other names are instrumented. -/
theorem InstrumentsAll.stays {name : String} {bytes bytes' : Bytes}
    (instruments : InstrumentsAll fingerprint fields all next store disk outcomes store' disk')
    (placed : disk.Placed store.root (all.map (·.target)))
    (other : ∀ each ∈ all, each.current = false → name ≠ each.target.name)
    (secures : store.Secures disk name bytes bytes') : store'.Secures disk' name bytes bytes' := by
  induction instruments with
  | nil => exact secures
  | cons first _ ih =>
    have around := placed.changes first.changes
    rw [← first.root] at around
    obtain ⟨here, other⟩ := List.forall_mem_cons.1 other
    refine ih around.tail other ?_
    cases first with
    | current _ => exact secures
    | other changed backs _ stores =>
      refine (backs.keeps secures (here changed)).changes stores.changes fun place stored held => ?_
      rw [backs.changes.stored, backs.root] at stored
      rw [backs.changes.holds] at held
      exact placed.outside _ List.mem_cons_self place held stored

/-- A module that is instrumented is backed up. -/
theorem LoadedTarget.Instruments.secures {contents : Set Bytes} {loaded : LoadedTarget} {status : PassStatus}
    {last : UInt32}
    (instruments : loaded.Instruments fingerprint fields next store disk status last store' disk')
    (outside : ∀ place, disk.Holds loaded.target.files place → ¬ disk.Stored store.root place)
    (genuine : store.Genuine disk contents) (digests : Set.InjOn objectId contents)
    (holds : loaded.current = false → ∃ bytes ∈ contents, ∃ bytes' ∈ contents,
      disk.Contains loaded.target.files bytes bytes') :
    store'.Genuine disk' contents ∧
      (loaded.current = false → ∀ bytes bytes', disk.Contains loaded.target.files bytes bytes' →
      store'.Secures disk' loaded.target.name bytes bytes') := by
  cases instruments with
  | current current =>
    refine ⟨genuine, fun other => ?_⟩
    rw [current] at other
    cases other
  | @other entry done _ _ between _ notCurrent backs instrumented stores =>
    obtain ⟨bytes, held, bytes', held', contains⟩ := holds notCurrent
    obtain ⟨secures, genuine'⟩ := backs.secures genuine digests contains held held' outside
    have untouched : ∀ place, between.Stored store'.root place → ¬ between.Holds loaded.target.files place := by
      rw [backs.changes.stored, backs.root, backs.changes.holds]
      exact fun place stored held => outside place held stored
    refine ⟨genuine'.changes rfl stores.changes fun bytes _ => untouched _ (between.stored_object _ _),
      fun _ other other' also => ?_⟩
    obtain rfl := Except.ok.inj (contains.binary.symm.trans also.binary)
    obtain rfl := Except.ok.inj (contains.symbols.symm.trans also.symbols)
    exact secures.changes stores.changes untouched

/-- A pass backs up what the files hold of a module that it instruments, and keeps it as long as it
instruments no other of the name. -/
theorem InstrumentsAll.secures_last {contents : Set Bytes} {ahead behind : List LoadedTarget}
    {loaded : LoadedTarget} {bytes bytes' : Bytes}
    (instruments : InstrumentsAll fingerprint fields (ahead ++ loaded :: behind) next store disk
      outcomes store' disk')
    (placed : disk.Placed store.root ((ahead ++ loaded :: behind).map (·.target)))
    (genuine : store.Genuine disk contents) (digests : Set.InjOn objectId contents)
    (holds : ∀ each ∈ ahead ++ loaded :: behind, each.current = false →
      ∃ bytes ∈ contents, ∃ bytes' ∈ contents, disk.Contains each.target.files bytes bytes')
    (other : loaded.current = false)
    (names : ∀ each ∈ behind, each.current = false → loaded.target.name ≠ each.target.name)
    (contains : disk.Contains loaded.target.files bytes bytes') :
    store'.Secures disk' loaded.target.name bytes bytes' := by
  induction ahead generalizing next store disk outcomes with
  | nil =>
    cases instruments with
    | cons first later =>
      have around := placed.changes first.changes
      rw [← first.root] at around
      obtain ⟨-, secures⟩ := first.secures (placed.outside _ List.mem_cons_self) genuine digests
        (holds _ List.mem_cons_self)
      exact later.stays around.tail names (secures other bytes bytes' contains)
  | cons early ahead ih =>
    cases instruments with
    | cons first later =>
      have around := placed.changes first.changes
      rw [← first.root] at around
      have spares := first.spares_rest placed
      obtain ⟨genuine', -⟩ := first.secures (placed.outside _ List.mem_cons_self) genuine digests
        (holds _ List.mem_cons_self)
      refine ih later around.tail genuine' (fun each member changed => ?_) (contains.spared (spares _ ?_))
      · obtain ⟨bytes, held, bytes', held', contains⟩ := holds each (List.mem_cons_of_mem _ member) changed
        exact ⟨bytes, held, bytes', held', contains.spared (spares each member)⟩
      · exact List.mem_append_right _ List.mem_cons_self

/-- A pass backs up what the files of the modules hold that it instruments. -/
theorem InstrumentsAll.secures {contents : Set Bytes}
    (instruments : InstrumentsAll fingerprint fields all next store disk outcomes store' disk')
    (placed : disk.Placed store.root (all.map (·.target))) (names : (all.map (·.target.name)).Nodup)
    (genuine : store.Genuine disk contents) (digests : Set.InjOn objectId contents)
    (holds : ∀ each ∈ all, each.current = false →
      ∃ bytes ∈ contents, ∃ bytes' ∈ contents, disk.Contains each.target.files bytes bytes') :
    ∀ each ∈ all, each.current = false → ∀ bytes bytes', disk.Contains each.target.files bytes bytes' →
      store'.Secures disk' each.target.name bytes bytes' := by
  intro each member changed bytes bytes' contains
  obtain ⟨ahead, behind, rfl⟩ := List.append_of_mem member
  rw [List.map_append, List.map_cons] at names
  obtain ⟨unlike, -⟩ := List.nodup_cons.1 (List.nodup_append.1 names).2.1
  refine instruments.secures_last placed genuine digests holds changed (fun other listed _ same => unlike ?_) contains
  exact List.mem_map.2 ⟨other, listed, same.symm⟩

/-- The modules are stored in their folders as they are instrumented. -/
theorem InstrumentsAll.stamped (numbered : Numbered fields origins next)
    (instruments : InstrumentsAll fingerprint fields (origins.map (·.loaded false)) next store disk
      outcomes store' disk')
    (placed : disk.Placed store.root (origins.map (·.target))) :
    ∀ origin ∈ origins, origin.Stamped fingerprint disk' ∧ disk'.Prepared origin.target.files := by
  induction numbered generalizing store disk outcomes with
  | nil => exact fun _ member => (List.not_mem_nil member).elim
  | @cons origin rest next last numbered _ ih =>
    have own := placed.own _ List.mem_cons_self
    cases instruments with
    | @cons _ _ _ _ _ _ _ store₁ _ _ disk₁ _ first later =>
      have around := placed.changes first.changes
      rw [← first.root] at around
      cases first with
      | current current => cases current
      | @other entry done _ _ between _ _ backs instrumented stores =>
        cases instrumented.symm.trans numbered
        refine List.forall_mem_cons.2 ⟨⟨?_, stores.prepared.changes later.changes⟩, ih later around.tail⟩
        rw [← backs.changes.placeOf, ← backs.changes.placeOf] at own
        refine (stores.bears own).spared (later.changes_stored.spares ?_)
        rintro place held (stored | ⟨each, member, -, held'⟩)
        · exact around.outside _ List.mem_cons_self place held stored
        · obtain ⟨other, listed, rfl⟩ := List.mem_map.1 member
          exact around.head_apart held _ (List.mem_map_of_mem listed) held'

/-- The first pass backs up what the files hold. -/
theorem InstrumentsAll.rewrites {contents : Set Bytes} (numbered : Numbered fields origins next)
    (instruments : InstrumentsAll fingerprint fields (origins.map (·.loaded false)) next store disk
      outcomes store' disk')
    (placed : disk.Placed store.root (origins.map (·.target))) (names : (origins.map (·.target.name)).Nodup)
    (genuine : store.Genuine disk contents) (digests : Set.InjOn objectId contents)
    (stands : ∀ origin ∈ origins, origin.Stands disk)
    (held : ∀ origin ∈ origins, origin.bytes ∈ contents ∧ origin.bytes' ∈ contents) :
    ∀ origin ∈ origins, origin.Stamped fingerprint disk' ∧ disk'.Prepared origin.target.files ∧
    origin.Secured store' disk' := by
  have targets : (origins.map (·.loaded false)).map (·.target) = origins.map (·.target) := by
    rw [List.map_map]
    rfl
  have unlike : ((origins.map (·.loaded false)).map (·.target.name)).Nodup := by
    rw [List.map_map]
    exact names
  have secures := instruments.secures (targets ▸ placed) unlike genuine digests <|
    List.forall_mem_map.2 fun origin member _ =>
    ⟨_, (held origin member).1, _, (held origin member).2, stands origin member⟩
  intro origin member
  obtain ⟨stamped, prepared⟩ := instruments.stamped numbered placed origin member
  exact ⟨stamped, prepared, secures _ (List.mem_map_of_mem member) rfl _ _ (stands origin member)⟩

/-- Where a pass succeeds, there is an origin for every module that it instruments. -/
theorem InstrumentsAll.exists_origins {start : Disk}
    (instruments : InstrumentsAll fingerprint fields all next store disk outcomes store' disk')
    (plain : ∀ each ∈ all, each.current = false ∧ each.restored = false)
    (contains : ∀ each ∈ all, ∃ bytes bytes', start.Contains each.target.files bytes bytes') :
    ∃ origins, origins.map (·.loaded false) = all ∧ Numbered fields origins next ∧ ∀ origin ∈ origins,
    origin.Stands start := by
  induction instruments with
  | nil => exact ⟨[], rfl, .nil, fun _ member => (List.not_mem_nil member).elim⟩
  | @cons each rest next last status outcomes store store₁ store' disk disk₁ disk' first _ ih =>
    obtain ⟨⟨notCurrent, notRestored⟩, plain⟩ := List.forall_mem_cons.1 plain
    obtain ⟨⟨bytes, bytes', stands⟩, contains⟩ := List.forall_mem_cons.1 contains
    obtain ⟨origins, rfl, numbered, stand⟩ := ih plain contains
    cases first with
    | current current =>
      rw [notCurrent] at current
      cases current
    | @other _ done _ _ _ _ _ _ instrumented _ =>
      obtain ⟨target, module, _, _⟩ := each
      cases notCurrent
      cases notRestored
      exact ⟨⟨target, bytes, bytes', module, done⟩ :: origins, rfl, .cons instrumented numbered,
        List.forall_mem_cons.2 ⟨stands, stand⟩⟩

theorem Origin.Numbered.instrumented (numbered : Numbered fields origins next) :
    ∀ origin ∈ origins, ∃ next last, origin.module.instrumented fields next = .ok (origin.done, last) := by
  induction numbered with
  | nil => exact fun _ member => (List.not_mem_nil member).elim
  | cons first _ ih => exact List.forall_mem_cons.2 ⟨⟨_, _, first⟩, ih⟩

end Faultline
