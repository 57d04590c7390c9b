import Faultline.Proofs.Project.Growth
import Faultline.Proofs.Project.Stops
import Faultline.Proofs.Storage.Recovery

namespace Faultline

variable {fingerprint : String} {fields : FieldTypes} {next last : UInt32} {store store' : SnapshotStore}
  {disk between disk' : Disk} {target : PassTarget} {targets : List PassTarget} {loaded : LoadedTarget}
  {all ahead behind : List LoadedTarget} {outcomes : List PassOutcome} {position : Nat}
  {places : Place → Prop} {contents : Set Bytes} {path : Path} {bytes bytes' : Bytes}

/-! What stands where a pass restores files. -/

namespace Disk

/-- Nothing but these contents stands in files at the places. -/
def Within (disk : Disk) (places : Place → Prop) (contents : Set Bytes) : Prop :=
  ∀ place, places place → ∀ bytes, disk.file? place = some bytes → bytes ∈ contents

theorem Within.read (within : disk.Within places contents) (listed : places (disk.placeOf path))
    (found : disk.read path = .ok bytes) :
    bytes ∈ contents :=
  within _ listed bytes (read_eq_ok.1 found).2

theorem Within.object {id : String} (within : disk.Within places contents)
    (objects : ∀ id, places (disk.placeOf store.root ++ ["objects", id]))
    (object : disk.Object store id bytes) : bytes ∈ contents := by
  refine within.read ?_ object.1
  rw [placeOf_objectPath disk store object.isName]
  exact objects id

/-- A write of held bytes keeps everything at the places within the contents. -/
theorem Writes.within (writes : disk.Writes path bytes disk') (within : disk.Within places contents)
    (held : bytes ∈ contents) :
    disk'.Within places contents := by
  intro place listed found file
  by_cases same : place = disk.placeOf path
  · have written := (read_eq_ok.1 writes.read).2
    rw [writes.changes.placeOf, ← same, file] at written
    exact Option.some.inj written ▸ held
  · rw [writes.changes.files _ same] at file
    exact within place listed found file

theorem Within.remove (within : disk.Within places contents) (removed : disk.remove path = .ok disk') :
    disk'.Within places contents := by
  intro place listed found file
  by_cases same : place = disk.placeOf path
  · rw [same, file?_of_removed removed] at file
    cases file
  · rw [(Changes.remove removed).files _ same] at file
    exact within place listed found file

end Disk

/-- A restore copies objects, so it keeps everything at the places within the contents. -/
theorem SnapshotStore.Restores.within {name : String} {files : ModuleFiles}
    (restores : store.Restores name files disk disk') (within : disk.Within places contents)
    (objects : ∀ id, places (disk.placeOf store.root ++ ["objects", id])) :
    disk'.Within places contents := by
  cases restores with
  | both recorded binary first symbols second =>
    have within₁ := first.within within (within.object objects binary)
    rw [← first.changes.placeOf] at objects
    exact second.within within₁ (within₁.object objects symbols)
  | alone recorded binary first gone =>
    have within₁ := first.within within (within.object objects binary)
    obtain removed | ⟨-, rfl⟩ := gone
    · exact within₁.remove removed
    · exact within₁

/-- What is restored stood in an object before. -/
theorem StartsAll.within (starts : StartsAll fingerprint store targets disk all disk')
    (within : disk.Within places contents)
    (objects : ∀ id, places (disk.placeOf store.root ++ ["objects", id])) : disk'.Within places contents := by
  induction starts with
  | nil => exact within
  | cons first _ ih =>
    refine ih ?_ (first.changes.placeOf store.root ▸ objects)
    cases first with
    | current _ _ | unstamped _ _ => exact within
    | stale _ _ restores _ => exact (SnapshotStore.does_restore restores).1.within within objects

/-- A module that is to be instrumented is there with its symbols once all are loaded. -/
theorem StartsAll.contains (starts : StartsAll fingerprint store targets disk all between)
    (placed : disk.Placed store.root targets) (admitted : ∀ each ∈ all, each.Admitted between) :
    ∀ each ∈ all, each.current = false → ∃ bytes bytes', between.Contains each.target.files bytes bytes' := by
  rintro ⟨target, module, current, restored⟩ member other
  obtain ⟨found, left, first, -, spares⟩ := starts.started placed (fun _ _ => .refl _) _ member
  have loads : left.Loads target.files module := by
    cases first with
    | current loads _ | unstamped loads _ => exact loads
    | stale _ _ _ reloads => exact reloads
  obtain ⟨bytes, binary⟩ : ∃ bytes, left.read target.files.binary = .ok bytes := by
    cases loads with
    | bare found _ _ | located found _ _ _ _ => exact ⟨_, found⟩
  obtain ⟨bytes', symbols⟩ := Disk.isFile_iff.1 ((admitted _ member).of_not_current other).2
  exact ⟨bytes, bytes', Disk.Changes.read spares (not_not_intro (Or.inl rfl)) binary, symbols⟩

/-! Which targets a pass rewrites, and when. -/

/-- The pass rewrote the target at this position. -/
def Rewrote (targets : List PassTarget) (outcomes : List PassOutcome) (position : Nat) (target : PassTarget) : Prop :=
  targets[position]? = some target ∧ ∃ outcome, outcomes[position]? = some outcome ∧ outcome.status ≠ .upToDate

theorem LoadedTarget.Instruments.rewrote_iff {status : PassStatus}
    (instruments : loaded.Instruments fingerprint fields next store disk status last store' disk') :
    status ≠ .upToDate ↔ loaded.current = false := by
  cases instruments with
  | current current => simp [current]
  | other other _ _ _ => simp [other]

/-- The targets a pass reports as instrumented are those it did not find current. -/
theorem InstrumentsAll.rewrote_iff
    (instruments : InstrumentsAll fingerprint fields all next store disk outcomes store' disk') :
    Rewrote (all.map (·.target)) outcomes position target ↔
      ∃ each, all[position]? = some each ∧ each.target = target ∧ each.current = false := by
  induction instruments generalizing position with
  | nil => simp [Rewrote]
  | cons first _ ih =>
    cases position with
    | zero => simp [Rewrote, first.rewrote_iff]
    | succ position => simpa [Rewrote] using ih

/-- A pass over two lists of targets is a pass over the first and then over the second. -/
theorem InstrumentsAll.split
    (instruments : InstrumentsAll fingerprint fields (ahead ++ behind) next store disk outcomes store' disk') :
    ∃ outcomes₁ outcomes₂ last store₁ disk₁,
      InstrumentsAll fingerprint fields ahead next store disk outcomes₁ store₁ disk₁ ∧
      InstrumentsAll fingerprint fields behind last store₁ disk₁ outcomes₂ store' disk' := by
  induction ahead generalizing next store disk outcomes with
  | nil => exact ⟨[], outcomes, next, store, disk, .nil, instruments⟩
  | cons loaded ahead ih =>
    cases instruments with
    | cons first later =>
      obtain ⟨outcomes₁, outcomes₂, last, store₁, disk₁, front, back⟩ := ih later
      exact ⟨_, outcomes₂, last, store₁, disk₁, .cons first front, back⟩

/-- A pass has loaded all of the targets and is done with those in front of the position. -/
def ComesTo (fingerprint : String) (targets : List PassTarget) (store : SnapshotStore) (disk : Disk) (position : Nat)
    (store₁ : SnapshotStore) (disk₁ : Disk) : Prop :=
  ∃ all between outcomes, Does (targets.mapM (·.load fingerprint)) store disk all store between ∧
    Does (instrumentLoaded fingerprint (fieldTypeIn? (all.map (·.module))) (all.take position)
      (siteIdAfter (LoadedTarget.usedSiteId? all))) store between outcomes store₁ disk₁

/-- To restore the target brings these contents into its files. -/
def PassTarget.Recovers (target : PassTarget) (store : SnapshotStore) (disk : Disk) (bytes bytes' : Bytes) : Prop :=
  ∃ disk', Does (store.restore target.name target.files) store disk () store disk' ∧
    disk'.pair target.files = (some bytes, some bytes')

theorem SnapshotStore.Secures.recovers {now now' : Bytes}
    (secures : store.Secures disk target.name bytes bytes') (contains : disk.Contains target.files now now')
    (own : disk.placeOf target.files.binary ≠ disk.placeOf target.files.symbols)
    (outside : ∀ place, disk.Holds target.files place → ¬ disk.Stored store.root place) :
    target.Recovers store disk bytes bytes' := by
  obtain ⟨disk', restores, stands⟩ := secures.restores contains own outside
  exact ⟨disk', restores, Disk.pair_eq_some.2 stands⟩

/-- What is secured when the pass is over can be brought back into the files of all that it instrumented under
the name. -/
theorem InstrumentsAll.recovers
    (instruments : InstrumentsAll fingerprint fields all next store disk outcomes store' disk')
    (placed : disk.Placed store.root (all.map (·.target))) : ∀ each ∈ all, each.current = false →
      store'.Secures disk' each.target.name bytes bytes' → each.target.Recovers store' disk' bytes bytes' := by
  intro each member changed secures
  obtain ⟨_, _, _, -, bears⟩ := instruments.bears placed each member changed
  have around := placed.changes instruments.changes_stored
  rw [← instruments.root] at around
  have listed : each.target ∈ all.map (·.target) := List.mem_map_of_mem member
  exact secures.recovers bears (around.own _ listed) (around.outside _ listed)

/-- What stands in the files of the targets and in the objects of the store. -/
def Disk.gathered (disk : Disk) (root : Path) (targets : List PassTarget) : Set Bytes :=
  {bytes | ∃ place,
    ((∃ target ∈ targets, disk.Holds target.files place) ∨ ∃ id, place = disk.placeOf root ++ ["objects", id]) ∧
    disk.file? place = some bytes}

/-- What the files of a module hold that is to be instrumented stood in files of the targets or in objects
before the pass. -/
theorem StartsAll.gathered (starts : StartsAll fingerprint store targets disk all between)
    (placed : disk.Placed store.root targets) (admitted : ∀ each ∈ all, each.Admitted between) :
    ∀ each ∈ all, each.current = false →
      ∃ bytes ∈ disk.gathered store.root targets, ∃ bytes' ∈ disk.gathered store.root targets,
        between.Contains each.target.files bytes bytes' := by
  intro each member other
  have within := starts.within (fun place listed bytes file => ⟨place, listed, file⟩ :
    disk.Within _ (disk.gathered store.root targets)) fun id => Or.inr ⟨id, rfl⟩
  have listed : each.target ∈ targets := starts.targets_eq ▸ List.mem_map_of_mem member
  obtain ⟨bytes, bytes', contains⟩ := starts.contains placed admitted each member other
  refine ⟨bytes, within.read (Or.inl ⟨_, listed, ?_⟩) contains.binary,
    bytes', within.read (Or.inl ⟨_, listed, ?_⟩) contains.symbols, contains⟩
  · exact Or.inl (starts.changes.placeOf _)
  · exact Or.inr (starts.changes.placeOf _)

/-- After a pass the originals of a target that it rewrote are recoverable, unless it rewrote another one of
the same name later on: to restore the target brings back the files that it had when the pass came to it. The
same files come back for every other target of the name. They are those that the pass found, or the backup if
the target was stale. -/
theorem runPass_recoverable (placed : disk.Placed store.root targets) (honest : disk.Honest store.root)
    (digests : Set.InjOn objectId (disk.gathered store.root targets))
    (pass : Does (runPass fingerprint targets) store disk outcomes store' disk')
    (rewrote : Rewrote targets outcomes position target)
    (last : ∀ later other, Rewrote targets outcomes later other → other.name = target.name → later ≤ position) :
    ∃ store₁ disk₁ bytes bytes', ComesTo fingerprint targets store disk position store₁ disk₁ ∧
      disk₁.pair target.files = (some bytes, some bytes') ∧ target.Recovers store' disk' bytes bytes' ∧
      (∀ earlier other, Rewrote targets outcomes earlier other → other.name = target.name →
        other.Recovers store' disk' bytes bytes') ∧
      (disk.Ordered store.root targets →
        ¬ disk.Stale fingerprint target ∧ disk.pair target.files = (some bytes, some bytes') ∨
          disk.Stale fingerprint target ∧ store.Backup disk target.name (some bytes, some bytes')) := by
  obtain ⟨all, between, starts, admitted, instruments⟩ := does_runPass.1 pass
  obtain rfl := starts.targets_eq
  have around := placed.changes starts.changes
  obtain ⟨loaded, found, rfl, other⟩ := instruments.rewrote_iff.1 rewrote
  obtain ⟨ahead, behind, rfl, rfl⟩ : ∃ ahead behind, all = ahead ++ loaded :: behind ∧ ahead.length = position := by
    obtain ⟨inside, rfl⟩ := List.getElem?_eq_some_iff.1 found
    exact ⟨all.take position, all.drop (position + 1), by simp, by simp [Nat.le_of_lt inside]⟩
  have member : loaded ∈ ahead ++ loaded :: behind := List.mem_append_right _ List.mem_cons_self
  have genuine : store.Genuine between (disk.gathered store.root ((ahead ++ loaded :: behind).map (·.target))) := by
    have found := honest.genuine digests fun id _ file => ⟨_, Or.inr ⟨id, rfl⟩, file⟩
    exact found.changes rfl starts.changes fun bytes _ ⟨target, listed, held⟩ =>
      placed.outside target listed _ held (disk.stored_object _ _)
  have holds := starts.gathered placed admitted
  obtain ⟨bytes, -, bytes', -, contains⟩ := holds loaded member other
  have secures : store'.Secures disk' loaded.target.name bytes bytes' := by
    refine instruments.secures_last around genuine digests holds other (fun each listed changed same => ?_) contains
    obtain ⟨index, here⟩ := List.getElem?_of_mem listed
    have behind : (ahead ++ loaded :: behind)[ahead.length + (index + 1)]? = some each := by
      rwa [List.getElem?_append_right (Nat.le_add_right ..), Nat.add_sub_cancel_left, List.getElem?_cons_succ]
    have later := last _ each.target (instruments.rewrote_iff.2 ⟨each, behind, rfl, changed⟩) same.symm
    omega
  obtain ⟨outcomes₁, _, _, store₁, disk₁, front, -⟩ := instruments.split
  have contains₁ : disk₁.Contains loaded.target.files bytes bytes' := by
    refine contains.spared (front.changes_stored.spares fun place held => ?_)
    rintro (stored | ⟨each, early, -, held'⟩)
    · exact around.outside _ (List.mem_map_of_mem member) place held stored
    · have apart := List.pairwise_map.1 around.apart
      exact (List.pairwise_append.1 apart).2.2 each early loaded List.mem_cons_self place held' held
  refine ⟨store₁, disk₁, bytes, bytes', ⟨_, between, outcomes₁, does_passLoads.2 ⟨starts, rfl⟩, ?_⟩,
    Disk.pair_eq_some.2 contains₁,
    instruments.recovers around loaded member other secures, fun earlier each rewrote same => ?_, fun ordered => ?_⟩
  · rw [List.take_left]
    exact does_instrumentLoaded.2 front
  · obtain ⟨each, found, rfl, changed⟩ := instruments.rewrote_iff.1 rewrote
    exact instruments.recovers around each (List.mem_of_getElem? found) changed (same ▸ secures)
  · have unchanged : Disk.Changes (fun _ => False) disk disk := .refl _
    exact (starts.stands ordered unchanged (fun _ _ _ _ => id) (fun _ _ => id) loaded member between
      (.refl _)).origin other contains

/-! Two targets of one name. -/

/-- A target of the first module's name, with the files of the second one. -/
def twinTarget : PassTarget := ⟨"A", secondTarget.files⟩

/-- Every object in the store is named by its digest. -/
theorem backedDisk_honest : backedDisk.Honest backedStore.root := by
  obtain ⟨binary, symbols, binary', symbols'⟩ := read_digests
  intro id bytes file
  rw [backedDisk_root.1] at file
  have listed := Table.mem_ofList (Disk.mem_entries_of_file? file)
  simp only [List.cons_append, List.nil_append, List.mem_cons, Prod.mk.injEq, List.cons.injEq,
    Node.file.injEq, reduceCtorEq,
    String.reduceEq, and_false, false_and, true_and, and_true, false_or, or_false, List.not_mem_nil] at listed
  obtain ⟨rfl, rfl⟩ | ⟨rfl, rfl⟩ | ⟨rfl, rfl⟩ | ⟨rfl, rfl⟩ := listed
  · exact binary
  · exact symbols
  · exact binary'
  · exact symbols'

/-- Contents that stand in objects have different digests. -/
theorem Disk.Honest.injOn {root : Path} (honest : disk.Honest root)
    (kept : ∀ bytes ∈ contents, ∃ id, disk.file? (disk.placeOf root ++ ["objects", id]) = some bytes) :
    Set.InjOn objectId contents := by
  intro bytes held bytes' held' same
  obtain ⟨id, file⟩ := kept bytes held
  obtain ⟨id', file'⟩ := kept bytes' held'
  rw [← honest id bytes file, same, honest id' bytes' file'] at file
  exact Option.some.inj (file.symm.trans file')

theorem Disk.Object.file? {id : String} (object : disk.Object store id bytes) :
    disk.file? (disk.placeOf store.root ++ ["objects", id]) = some bytes := by
  rw [← placeOf_objectPath disk store object.isName]
  exact (read_eq_ok.1 object.1).2

theorem Readied.kept {place : Place} (readied : Readied target store disk) (held : disk.Holds target.files place)
    (file : disk.file? place = some bytes) :
    ∃ id, disk.file? (disk.placeOf store.root ++ ["objects", id]) = some bytes := by
  obtain rfl | rfl := held
  · cases (Disk.read_eq_ok.1 readied.reads.binary).2.symm.trans file
    exact ⟨_, readied.secures.binary.file?⟩
  · cases (Disk.read_eq_ok.1 readied.reads.symbols).2.symm.trans file
    exact ⟨_, readied.secures.symbols.file?⟩

def twins : List PassTarget := [plainTarget, twinTarget]

def twinsLoaded : List LoadedTarget :=
  [⟨plainTarget, readModule "A", false, false⟩, ⟨twinTarget, readModule "B", false, false⟩]

/-- The files of the two are those of the two modules. -/
theorem twins_files : ∀ target ∈ twins, ∃ other ∈ [plainTarget, secondTarget], target.files = other.files := by decide

/-- The places of the two targets of one name are apart from each other and from the store. -/
theorem backedDisk_twins : backedDisk.Placed backedStore.root twins where
  own target listed := by
    obtain ⟨other, listed, same⟩ := twins_files target listed
    rw [same]
    exact backedDisk_placed.own other listed
  apart := List.pairwise_pair.2 (Disk.Apart.symm secondTarget_apart)
  outside target listed := by
    obtain ⟨other, listed, same⟩ := twins_files target listed
    rw [same]
    exact backedDisk_placed.outside other listed

theorem backedDisk_gathered : Set.InjOn objectId (backedDisk.gathered backedStore.root twins) := by
  refine backedDisk_honest.injOn ?_
  rintro bytes ⟨place, ⟨target, listed, held⟩ | ⟨id, rfl⟩, file⟩
  · obtain ⟨other, listed, same⟩ := twins_files target listed
    rw [same] at held
    exact (backedDisk_readied other listed).kept held file
  · exact ⟨id, file⟩

theorem backedDisk_starts : StartsAll "f1" backedStore twins backedDisk twinsLoaded backedDisk :=
  .cons (.unstamped (backedDisk_readied plainTarget (by decide)).loads rfl)
    (.cons (.unstamped (backedDisk_readied secondTarget (by decide)).loads rfl) .nil)

/-- The second target's backup takes the place of the first one's. -/
theorem backedDisk_instruments : ∃ outcomes store' disk',
    InstrumentsAll "f1" (fieldTypeIn? (twinsLoaded.map (·.module))) twinsLoaded 0 backedStore backedDisk
      outcomes store' disk' := by
  have plain := backedDisk_readied plainTarget (by decide)
  obtain ⟨disk₁, first, -, changes⟩ := plain.instruments false (fieldTypeIn? (twinsLoaded.map (·.module))) 0
  have outside := backedDisk_twins.outside plainTarget List.mem_cons_self
  have outside₂ := (backedDisk_twins.changes changes).outside twinTarget (List.mem_cons_of_mem _ List.mem_cons_self)
  have second : Readied secondTarget backedStore disk₁ :=
    (backedDisk_readied secondTarget (by decide)).spared changes secondTarget_apart fun place stored held =>
      outside place held stored
  have stays :=
    changes.read (fun held => outside _ held (by rw [placeOf_indexPath]; exact backedDisk.stored_index _))
      backedDisk_index
  have new : backedStore.entryOf? twinTarget.name ≠ backedStore.entryOf? secondTarget.name := by decide
  rw [second.secures.recorded] at new
  obtain ⟨between, put⟩ := (Disk.Writable.of_read stays).writes _
  have backs : backedStore.Backs disk₁ twinTarget.name twinTarget.files _ _ between :=
    SnapshotStore.Records.backs (Or.inr ⟨new, put, rfl⟩) second.reads second.secures.binary second.secures.symbols
  have stood : between.Reads secondTarget := second.reads.spared (backs.changes_stored.spares outside₂)
  have own : between.placeOf secondTarget.files.binary ≠ between.placeOf secondTarget.files.symbols := by
    rw [backs.changes.placeOf, backs.changes.placeOf]
    exact second.own
  obtain ⟨disk₂, stores⟩ :=
    Disk.Stores.of_prepared stood.prepared stood own ((readDone "B" (0 + 1)).stamp "f1")
  exact ⟨_, _, disk₂, .cons first (.cons (.other rfl backs (readModule_instrumented "B" _ (0 + 1)) stores) .nil)⟩

theorem backedDisk_admitted : ∀ each ∈ twinsLoaded, each.Admitted backedDisk := by
  intro each listed
  obtain ⟨other, among, same⟩ := twins_files each.target (backedDisk_starts.targets_eq ▸ List.mem_map_of_mem listed)
  refine Or.inr ⟨(by decide : ∀ each ∈ twinsLoaded, each.module.isInstrumentable = true) each listed, ?_⟩
  rw [same]
  exact Disk.isFile_iff.2 ⟨_, (backedDisk_readied other among).reads.symbols⟩

/-- The pass over the two rewrites both. -/
theorem backedDisk_rewrites {outcomes : List PassOutcome} (instruments :
    InstrumentsAll "f1" (fieldTypeIn? (twinsLoaded.map (·.module))) twinsLoaded 0 backedStore backedDisk
      outcomes store' disk') :
    Does (runPass "f1" twins) backedStore backedDisk outcomes store' disk' ∧
      Rewrote twins outcomes 0 plainTarget ∧ Rewrote twins outcomes 1 twinTarget :=
  ⟨does_runPass.2 ⟨_, _, backedDisk_starts, backedDisk_admitted, instruments⟩,
    instruments.rewrote_iff.2 ⟨_, rfl, rfl, rfl⟩, instruments.rewrote_iff.2 ⟨_, rfl, rfl, rfl⟩⟩

/-- Two targets of one name: the later one is recovered by a restore. -/
theorem runPass_recoverable_twins : ∃ outcomes store' disk',
    Does (runPass "f1" twins) backedStore backedDisk outcomes store' disk' ∧
    Rewrote twins outcomes 1 twinTarget ∧ ∃ store₁ disk₁ bytes bytes',
      ComesTo "f1" twins backedStore backedDisk 1 store₁ disk₁ ∧
      disk₁.pair twinTarget.files = (some bytes, some bytes') ∧
      twinTarget.Recovers store' disk' bytes bytes' := by
  obtain ⟨outcomes, store', disk', instruments⟩ := backedDisk_instruments
  obtain ⟨pass, -, second⟩ := backedDisk_rewrites instruments
  obtain ⟨store₁, disk₁, bytes, bytes', comes, pair, recovers, -⟩ :=
    runPass_recoverable backedDisk_twins backedDisk_honest backedDisk_gathered pass second
        fun later other rewrote _ => by
      have inside := (List.getElem?_eq_some_iff.1 rewrote.1).1
      exact Nat.lt_succ_iff.1 inside
  exact ⟨outcomes, store', disk', pass, second, store₁, disk₁, bytes, bytes', comes, pair, recovers⟩

/-- The originals of the first target are lost: to restore it brings back the files of the second one. -/
theorem runPass_forgets_twin : backedDisk.Placed backedStore.root twins ∧
    backedDisk.Opens backedStore.root backedStore ∧
    backedDisk.Honest backedStore.root ∧ ∃ outcomes store' disk' bytes bytes' other other',
      Does (runPass "f1" twins) backedStore backedDisk outcomes store' disk' ∧ Rewrote twins outcomes 0 plainTarget ∧
      ComesTo "f1" twins backedStore backedDisk 0 backedStore backedDisk ∧
      backedDisk.pair plainTarget.files = (some bytes, some bytes') ∧ plainTarget.Recovers store' disk' other other' ∧
      ¬ plainTarget.Recovers store' disk' bytes bytes' := by
  obtain ⟨outcomes, store', disk', instruments⟩ := backedDisk_instruments
  obtain ⟨pass, first, -⟩ := backedDisk_rewrites instruments
  have plain := backedDisk_readied plainTarget (by decide)
  have second := backedDisk_readied secondTarget (by decide)
  have genuine : backedStore.Genuine backedDisk (backedDisk.gathered backedStore.root twins) :=
    backedDisk_honest.genuine backedDisk_gathered fun id _ file => ⟨_, Or.inr ⟨id, rfl⟩, file⟩
  have split : InstrumentsAll "f1" (fieldTypeIn? (twinsLoaded.map (·.module)))
      ([⟨plainTarget, readModule "A", false, false⟩] ++
      ⟨twinTarget, readModule "B", false, false⟩ :: []) 0 backedStore backedDisk outcomes store' disk' := instruments
  have secures := split.secures_last backedDisk_twins genuine backedDisk_gathered
    (backedDisk_starts.gathered backedDisk_twins backedDisk_admitted) rfl
    (fun _ member => (List.not_mem_nil member).elim) second.reads
  have recovers : plainTarget.Recovers store' disk' _ _ :=
    instruments.recovers backedDisk_twins ⟨plainTarget, readModule "A", false, false⟩ List.mem_cons_self rfl secures
  refine ⟨backedDisk_twins, backedDisk_opens, backedDisk_honest, outcomes, store', disk', _, _, _, _, pass, first,
    ⟨_, _, _, does_passLoads.2 ⟨backedDisk_starts, rfl⟩, does_instrumentLoaded.2 .nil⟩,
    Disk.pair_eq_some.2 plain.reads, recovers, ?_⟩
  rintro ⟨disk₁, restored, pair⟩
  obtain ⟨disk₂, restored', pair'⟩ := recovers
  obtain ⟨-, -, rfl⟩ := restored.unique restored'
  rw [pair] at pair'
  exact absurd (Prod.mk.inj pair').1 (by decide)

end Faultline
