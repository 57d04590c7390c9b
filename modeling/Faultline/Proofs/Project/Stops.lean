import Faultline.Proofs.Project.Origins
import Faultline.Proofs.Project.Standing

namespace Faultline

variable {fingerprint : String} {fields : FieldTypes} {next : UInt32} {store store' : SnapshotStore}
  {disk start between disk' later : Disk} {target : PassTarget} {targets : List PassTarget} {loaded : LoadedTarget}
  {all : List LoadedTarget} {outcomes : List PassOutcome} {failure : PassError}

/-- Targets that all are loaded, seen from a later moment. -/
theorem StartsAll.remains (starts : StartsAll fingerprint store targets disk all between)
    (ordered : disk.Ordered store.root targets)
    (after : ∀ target ∈ targets, between.Spares target.files disk') : ∀ target ∈ targets,
      disk'.pair target.files = disk.pair target.files ∨ target.Restored fingerprint store disk disk' := by
  rw [← starts.targets_eq] at after ⊢
  refine List.forall_mem_map.2 fun each member => ?_
  have unchanged : Disk.Changes (fun _ => False) disk disk := .refl _
  have stands := starts.stands ordered unchanged (fun _ _ _ _ => id) (fun _ _ => id) each member
  exact (stands disk' (after _ (List.mem_map_of_mem member))).remains

/-- When a target fails to load, each target has its files as before or those of its backup. -/
theorem remains_of_loading {front back : List PassTarget} {failing : PassTarget}
    (ordered : disk.Ordered store.root (front ++ failing :: back))
    (starts : StartsAll fingerprint store front disk all between)
    (fails : Fails (failing.load fingerprint) store between failure store' disk') (fault : failure.OnModule) :
    ∀ target ∈ front ++ failing :: back,
      disk'.pair target.files = disk.pair target.files ∨ target.Restored fingerprint store disk disk' := by
  obtain ⟨-, done⟩ := fails.passLoad fault
  obtain ⟨-, behind, across⟩ := List.pairwise_append.1 ordered.placed.apart
  have listed : failing ∈ front ++ failing :: back := List.mem_append_right _ List.mem_cons_self
  have first := starts.changes
  have second : Disk.Changes (disk.Holds failing.files) between disk' := by
    rw [← first.holds]
    obtain rfl | ⟨_, _, -, -, restores⟩ := done
    · exact .refl _
    · exact restores.changes
  have before {target : PassTarget} (member : target ∈ failing :: back) : disk.Spares target.files between :=
    first.spares fun place held ⟨other, ahead, held'⟩ => across other ahead target member place held' held
  refine List.forall_mem_append.2 ⟨?_, List.forall_mem_cons.2 ⟨?_, fun target member => Or.inl ?_⟩⟩
  · refine starts.remains (ordered.sublist (List.sublist_append_left _ _)) fun target member =>
      second.spares fun place held held' => ?_
    rw [first.holds] at held
    exact across target member failing List.mem_cons_self place held held'
  · have spares := before List.mem_cons_self
    have anchored := ordered.anchored failing listed
    obtain rfl | ⟨old, found, loads, stamp, restores⟩ := done
    · exact Or.inl (spares.pair_eq ordered.sound anchored)
    · refine Or.inr ⟨⟨old, found, loads.of_pair (spares.pair_eq ordered.sound anchored).symm, stamp⟩, ?_⟩
      refine restores.backup ordered.sound anchored spares (fun place stored => first.files place ?_)
        (ordered.placed.own _ listed) (ordered.placed.outside _ listed) (.refl _)
      rintro ⟨other, ahead, held⟩
      exact ordered.placed.outside other (List.mem_append_left _ ahead) place held stored
  · refine ((before (List.mem_cons_of_mem _ member)).trans (second.spares fun place held held' => ?_)).pair_eq
      ordered.sound (ordered.anchored target (List.mem_append_right _ (List.mem_cons_of_mem _ member)))
    rw [first.holds] at held
    exact (List.pairwise_cons.1 behind).1 target member place held' held

/-- What a module to instrument stands in was found by the pass, or it is the backup of a stale module. -/
theorem LoadedTarget.Stands.origin {bytes bytes' : Bytes} (stands : loaded.Stands fingerprint store disk later)
    (other : loaded.current = false) (contains : later.Contains loaded.target.files bytes bytes') :
    ¬ disk.Stale fingerprint loaded.target ∧ disk.pair loaded.target.files = (some bytes, some bytes') ∨
      disk.Stale fingerprint loaded.target ∧ store.Backup disk loaded.target.name (some bytes, some bytes') := by
  rw [← Disk.pair_eq_some] at contains
  cases stands with
  | found loads unstamped same =>
    refine Or.inl ⟨fun ⟨old, _, loads', stamp⟩ => ?_, same ▸ contains⟩
    rw [← loads.unique loads', unstamped other] at stamp
    cases stamp
  | restored restored _ => exact Or.inr ⟨restored.1, contains ▸ restored.2⟩

/-- The bytes of a target that is about to be instrumented are among those the store may come to hold. -/
theorem LoadedTarget.Stands.involved {bytes bytes' : Bytes} (stands : loaded.Stands fingerprint store disk later)
    (listed : loaded.target ∈ targets) (other : loaded.current = false)
    (contains : later.Contains loaded.target.files bytes bytes') :
    bytes ∈ disk.involved store.root targets ∧ bytes' ∈ disk.involved store.root targets := by
  obtain ⟨-, pair⟩ | ⟨-, backup⟩ := stands.origin other contains
  · have held := Disk.pair_eq_some.1 pair
    exact ⟨Or.inl ⟨_, listed, Or.inl held.binary⟩, Or.inl ⟨_, listed, Or.inr held.symbols⟩⟩
  · cases backup with
    | both _ binary symbols => exact ⟨Or.inr ⟨_, binary⟩, Or.inr ⟨_, symbols⟩⟩

/-- A target that was instrumented ahead of a backup is written for its module, and its own backup is kept. -/
theorem InstrumentsAll.rewritten {ahead : List LoadedTarget} {entry : SnapshotEntry} {store₁ : SnapshotStore}
    {disk₁ : Disk} {other : PassTarget} {each : LoadedTarget}
    (instruments : InstrumentsAll fingerprint fields ahead next store between outcomes store₁ disk₁)
    (placed : between.Placed store.root (ahead.map (·.target))) (names : (ahead.map (·.target.name)).Nodup)
    (genuine : store.Genuine between (disk.involved store.root targets))
    (digests : Set.InjOn objectId (disk.involved store.root targets))
    (listed : ∀ each ∈ ahead, each.target ∈ targets) (admitted : ∀ each ∈ ahead, each.Admitted between)
    (stands : ∀ each ∈ ahead, each.Stands fingerprint store disk between)
    (backs : store₁.Backs disk₁ other.name other.files entry store' disk')
    (early : each ∈ ahead) (changed : each.current = false) (unlike : each.target.name ≠ other.name) :
    each.target.Rewritten fingerprint store disk store' disk' := by
  have contains : ∀ each ∈ ahead, each.current = false → ∃ bytes bytes',
      between.Contains each.target.files bytes bytes' := fun each early changed =>
    (stands each early).loads.exists_contains ((admitted each early).of_not_current changed).2
  obtain ⟨bytes, bytes', stood⟩ := contains each early changed
  obtain ⟨next, last, done, instrumented, bears⟩ := instruments.bears placed each early changed
  have secures : store₁.Secures disk₁ each.target.name bytes bytes' := by
    refine instruments.secures placed names genuine digests (fun each early changed => ?_) each early changed
      bytes bytes' stood
    obtain ⟨bytes, bytes', stood⟩ := contains each early changed
    obtain ⟨held, held'⟩ := (stands each early).involved (listed each early) changed stood
    exact ⟨bytes, held, bytes', held', stood⟩
  have stays := bears.spared (backs.changes_stored.spares fun place held stored => ?_)
  · exact ⟨bytes, bytes', each.module, done, fields, next, last, (stands each early).loads.madeOf stood, instrumented,
      Disk.pair_eq_some.2 stays, backs.keeps secures unlike, (stands each early).origin changed stood⟩
  · have changes := instruments.changes_stored
    rw [changes.holds] at held
    rw [changes.stored, instruments.root] at stored
    exact placed.outside _ (List.mem_map_of_mem early) place held stored

/-- When instrumenting stops after a backup, every target is in one of the three states: the targets ahead are
rewritten or were current, the failing one and those behind it have what loading left them. -/
theorem remains_of_instrumenting {ahead behind : List LoadedTarget} {entry : SnapshotEntry}
    {store₁ : SnapshotStore} {disk₁ : Disk} (ordered : disk.Ordered store.root targets)
    (names : (targets.map (·.name)).Nodup) (honest : disk.Honest store.root)
    (digests : Set.InjOn objectId (disk.involved store.root targets))
    (starts : StartsAll fingerprint store targets disk (ahead ++ loaded :: behind) between)
    (admitted : ∀ each ∈ ahead ++ loaded :: behind, each.Admitted between)
    (instruments : InstrumentsAll fingerprint fields ahead next store between outcomes store₁ disk₁)
    (backs : store₁.Backs disk₁ loaded.target.name loaded.target.files entry store' disk') :
    ∀ target ∈ targets, disk'.pair target.files = disk.pair target.files ∨
      target.Restored fingerprint store disk disk' ∨
      target ∈ ahead.map (·.target) ∧ target.Rewritten fingerprint store disk store' disk' := by
  have unchanged : Disk.Changes (fun _ => False) disk disk := .refl _
  have stands := starts.stands ordered unchanged (fun _ _ _ _ => id) (fun _ _ => id)
  have placed := ordered.placed.changes starts.changes
  rw [← starts.targets_eq] at placed
  have listed {each : LoadedTarget} (member : each ∈ ahead ++ loaded :: behind) : each.target ∈ targets :=
    starts.targets_eq ▸ List.mem_map_of_mem member
  rw [← starts.targets_eq, List.map_map] at names
  obtain ⟨different, -, unlike⟩ := List.nodup_append.1 (List.map_append ▸ names)
  have genuine : store.Genuine between (disk.involved store.root targets) := by
    have found := honest.genuine digests fun id _ file => Or.inr ⟨id, file⟩
    refine found.changes rfl starts.changes fun bytes _ ⟨target, member, held⟩ => ?_
    exact ordered.placed.outside target member _ held (disk.stored_object _ _)
  rw [← starts.targets_eq]
  refine List.forall_mem_map.2 fun each member => ?_
  by_cases rewritten : each ∈ ahead ∧ each.current = false
  · obtain ⟨early, changed⟩ := rewritten
    have inFront {each : LoadedTarget} (early : each ∈ ahead) : each ∈ ahead ++ loaded :: behind :=
      List.mem_append_left _ early
    refine Or.inr (Or.inr ⟨List.mem_map_of_mem early, ?_⟩)
    exact instruments.rewritten (placed.sublist ((List.sublist_append_left _ _).map _)) different genuine digests
      (fun _ early => listed (inFront early)) (fun _ early => admitted _ (inFront early))
      (fun _ early => stands _ (inFront early) between (.refl _)) backs early changed
      (unlike _ (List.mem_map_of_mem early) _ List.mem_cons_self)
  · have backed : Disk.Changes (between.Stored store.root) disk₁ disk' := by
      have backed := backs.changes_stored
      rwa [instruments.changes_stored.stored, instruments.root] at backed
    have spares := instruments.spares_others (List.subset_append_left ahead (loaded :: behind)) placed backed
      each member rewritten
    exact (stands each member disk' spares).remains.imp_right Or.inl

/-- Where a pass fails at a module, it does so at one of the targets, and leaves the files of every target
whole. They are as they were, or exactly the backup, if the module was stale. Only if the module could not be
instrumented are there others: those of targets in front may be written for the instrumented module, and then
the store has what they held before. -/
theorem runPass_stops (ordered : disk.Ordered store.root targets) (names : (targets.map (·.name)).Nodup)
    (honest : disk.Honest store.root) (digests : Set.InjOn objectId (disk.involved store.root targets))
    (fails : Fails (runPass fingerprint targets) store disk failure store' disk') (fault : failure.OnModule) :
    ∃ phase front failing back, targets = front ++ failing :: back ∧
      StopsAt fingerprint front failing back store disk failure phase store' disk' ∧
      ∀ target ∈ targets, disk'.pair target.files = disk.pair target.files ∨
        target.Restored fingerprint store disk disk' ∨
        phase = .instrumenting ∧ target ∈ front ∧ target.Rewritten fingerprint store disk store' disk' := by
  obtain ⟨phase, front, failing, back, rfl, stops⟩ := fails.runPass
  refine ⟨phase, front, failing, back, rfl, stops, ?_⟩
  cases stops with
  | loading loads fails =>
    have remains := remains_of_loading ordered (does_passLoads.1 loads).1 fails fault
    exact fun target member => (remains target member).imp_right Or.inl
  | checking loads _ _ fails =>
    obtain ⟨-, rfl⟩ := fails.check
    have remains := (does_passLoads.1 loads).1.remains ordered fun _ _ => .refl _
    exact fun target member => (remains target member).imp_right Or.inl
  | instrumenting loads aligned checks instruments fails =>
    obtain ⟨entry, backs⟩ := fails.instrument fault
    have remains := remains_of_instrumenting ordered names honest digests (does_passLoads.1 loads).1
      (does_checks.1 checks).1 (does_instrumentLoaded.1 instruments) backs
    rw [aligned] at remains
    exact fun target member => (remains target member).imp_right (Or.imp_right fun rewritten => ⟨rfl, rewritten⟩)

/-! The module whose source is not known, beside the others. -/

theorem pairDisk_lost : pairDisk.Contains lostTarget.files lostModule.encode (textBytes lostSymbols) :=
  ⟨by with_unfolding_all rfl, by with_unfolding_all rfl⟩

theorem pairDisk_loads_lost : pairDisk.Loads lostTarget.files lostModule := by
  have sound : lostModule.Fits ∧ Symbols.ofText? lostSymbols = some lostModule.symbols := by decide +kernel
  exact .located pairDisk_lost.binary (Module.decode_of_fits sound.1) pairDisk_lost.symbols sound.2
    (Module.symbols_applyTo_bare (List.nodup_singleton _))

theorem pairDisk_places_lost : pairDisk.placeOf lostTarget.files.binary = ["C.ivm"] ∧
    pairDisk.placeOf lostTarget.files.symbols = ["C.isym"] := by
  with_unfolding_all decide

def pairContents : List Bytes :=
  [(readModule "A").encode, textBytes (readSymbols "A"), doneModule.encode, textBytes indexText, lostModule.encode,
    textBytes lostSymbols]

theorem pairContents_different : (pairContents.map objectId).Nodup := by decide +kernel

/-- There are no objects, and the contents of the files have different digests. -/
theorem pairDisk_objects : pairDisk.Honest pairStore.root ∧ ∀ targets : List PassTarget,
    (∀ target ∈ targets, ∀ path ∈ [target.files.binary, target.files.symbols], ∀ bytes ∈ pairDisk.contents path,
      bytes ∈ pairContents) → Set.InjOn objectId (pairDisk.involved pairStore.root targets) := by
  have none (id : String) : pairDisk.file? (pairDisk.placeOf pairStore.root ++ ["objects", id]) = none := by
    rw [pairDisk_places.1]
    have below : ["bk", "objects"] <+: ["bk"] ++ ["objects", id] := ⟨[id], rfl⟩
    exact Disk.file?_eq_none_of_entries (by decide) below
  refine ⟨fun id bytes file => ?_, fun targets held bytes here bytes' here' same => ?_⟩
  · rw [none] at file
    cases file
  · have listed {bytes : Bytes} (here : bytes ∈ pairDisk.involved pairStore.root targets) : bytes ∈ pairContents := by
      obtain ⟨target, member, found⟩ | ⟨id, file⟩ := here
      · obtain found | found := found
        · exact held target member _ List.mem_cons_self bytes (Disk.contents_eq_some.2 found)
        · exact held target member _ (List.mem_cons_of_mem _ List.mem_cons_self) bytes (Disk.contents_eq_some.2 found)
      · rw [none] at file
        cases file
    exact List.inj_on_of_nodup_map pairContents_different (listed here) (listed here') same

theorem Disk.Loads.not_stale {files : ModuleFiles} {module : Module} {name : String} (loads : disk.Loads files module)
    (fresh : ∀ found, module.stampOf fingerprint ≠ .stale found) : ¬ disk.Stale fingerprint ⟨name, files⟩ := by
  rintro ⟨module', found, loads', stamp⟩
  rw [← loads.unique loads'] at stamp
  exact fresh found stamp

/-- The places of the two targets are apart from each other and from the store. -/
theorem pairDisk_ordered : pairDisk.Ordered pairStore.root [plainTarget, lostTarget] := by
  have level : ∀ target ∈ [plainTarget, lostTarget], ".." ∉ target.files.binary.steps ∧
      ".." ∉ target.files.symbols.steps := by
    with_unfolding_all decide
  have places := pairDisk_places
  have lost := pairDisk_places_lost
  rw [plainTarget] at places
  rw [lostTarget] at lost
  refine ⟨pairDisk_sound, fun target member => ⟨fun climbs => absurd climbs (level target member).1,
    fun climbs => absurd climbs (level target member).2⟩, ?_, ?_, ?_⟩ <;>
    simp [Disk.Apart, Disk.Holds, Disk.Stored, plainTarget, lostTarget, places, lost]

/-- Instrumenting fails, and something else stands at the path than before. -/
def endsHalfway {α : Type} (path : Path) (before : Option Bytes) : (Except PassError α × SnapshotStore) × Disk → Bool
  | ((.error (.instrument _), _), disk) => disk.contents path ≠ before
  | _ => false

theorem exists_of_endsHalfway {α : Type} {path : Path} {before : Option Bytes}
    {ending : (Except PassError α × SnapshotStore) × Disk} (ended : endsHalfway path before ending = true) :
    ∃ fault store disk, ending = ((.error (.instrument fault), store), disk) ∧ disk.contents path ≠ before := by
  unfold endsHalfway at ended
  split at ended
  · exact ⟨_, _, _, rfl, of_decide_eq_true ended⟩
  · cases ended

/-- A pass that rewrites its first target and stops at the second, a call of which does not resolve. -/
theorem runPass_stops_halfway : ∃ failure store' disk',
    Fails (runPass "f1" [plainTarget, lostTarget]) pairStore pairDisk failure store' disk' ∧ failure.OnModule ∧
    plainTarget.Rewritten "f1" pairStore pairDisk store' disk' := by
  obtain ⟨honest, digests⟩ := pairDisk_objects
  have ended : endsHalfway plainTarget.files.binary (pairDisk.contents plainTarget.files.binary)
      (Work.ending (runPass "f1" [plainTarget, lostTarget]) pairStore pairDisk) = true := by
    decide +kernel
  obtain ⟨fault, store', disk', fails, changed⟩ := exists_of_endsHalfway ended
  obtain ⟨_, _, _, _, -, -, remains⟩ :=
    runPass_stops pairDisk_ordered (by decide) honest (digests _ (by decide +kernel)) fails trivial
  refine ⟨_, store', disk', fails, trivial, ?_⟩
  obtain same | restored | ⟨-, -, rewritten⟩ := remains plainTarget List.mem_cons_self
  · exact absurd (congrArg Prod.fst same) changed
  · exact absurd restored.1 ((pairDisk_plain.loads (by decide)).not_stale fun _ stamp => by cases stamp)
  · exact rewritten

/-- The backup of the module makes a folder for the objects, and it writes the index anew. -/
theorem pairDisk_backs_lost : ∃ entry store' disk',
    Does (SnapshotStore.backup "C" lostTarget.files) pairStore pairDisk entry store' disk' ∧
    disk'.node? ["bk", "objects"] = some .folder ∧
    disk'.read (SnapshotStore.indexPath pairStore.root) = .ok (textBytes store'.index.text) := by
  have ended : (Work.ending (SnapshotStore.backup "C" lostTarget.files) pairStore pairDisk).1.1.toOption.isSome ∧
      (Work.ending (SnapshotStore.backup "C" lostTarget.files) pairStore pairDisk).2.node? ["bk", "objects"] =
        some .folder := by
    decide +kernel
  obtain ⟨entry, done⟩ := Option.isSome_iff_exists.1 ended.1
  have backing := does_of_toOption done
  exact ⟨entry, _, _, backing, ended.2,
    (SnapshotStore.does_backup.1 backing).indexed fun recorded => by cases recorded⟩

/-- A pass over a module that is up to date and the other one fails after the backup. -/
theorem pairDisk_fails {symbols : Path} {module : Module}
    (loads : pairDisk.Loads (stampedTarget symbols).files module)
    (stamp : module.stampOf "f1" = .current) : ∃ store' disk',
      Fails (runPass "f1" [stampedTarget symbols, lostTarget]) pairStore pairDisk (.instrument (.noLocation "C::m" 0))
        store' disk' ∧
      disk'.node? ["bk", "objects"] = some .folder ∧
      disk'.read (SnapshotStore.indexPath pairStore.root) = .ok (textBytes store'.index.text) ∧
      Disk.Changes (pairDisk.Stored pairStore.root) pairDisk disk' := by
  obtain ⟨entry, store', disk', backing, objects, index⟩ := pairDisk_backs_lost
  have starts : StartsAll "f1" pairStore [stampedTarget symbols, lostTarget] pairDisk
      [⟨stampedTarget symbols, module, true, false⟩, ⟨lostTarget, lostModule, false, false⟩] pairDisk :=
    .cons (.current loads stamp) (.cons (.unstamped pairDisk_loads_lost rfl) .nil)
  have admitted : ∀ each ∈ ([⟨stampedTarget symbols, module, true, false⟩,
      ⟨lostTarget, lostModule, false, false⟩] : List LoadedTarget), each.Admitted pairDisk :=
    List.forall_mem_cons.2 ⟨Or.inl rfl,
      List.forall_mem_singleton.2 (Or.inr ⟨rfl, Disk.isFile_iff.2 ⟨_, pairDisk_lost.symbols⟩⟩)⟩
  refine ⟨store', disk', ?_, objects, index, (SnapshotStore.does_backup.1 backing).changes_stored⟩
  rw [runPass]
  refine fails_bind.2 (Or.inr ⟨_, _, _, does_passLoads.2 ⟨starts, rfl⟩, ?_⟩)
  refine fails_bind.2 (Or.inr ⟨⟨⟩, _, _, does_checks.2 ⟨admitted, rfl, rfl⟩, ?_⟩)
  refine fails_bind.2
    (Or.inr ⟨_, _, _, does_instrument.2 (.current rfl), fails_bind.2 (Or.inl (fails_bind.2 (Or.inl ?_)))⟩)
  refine fails_bind.2 (Or.inr ⟨⟨⟩, _, _, does_discard.2 ⟨entry, does_adapt.2 backing⟩, ?_⟩)
  exact fails_throw.2 ⟨rfl, rfl, rfl⟩

theorem pairDisk_apart_lost {symbols : Path} (place : Place) (found : pairDisk.placeOf symbols = place)
    (other : place ≠ ["C.ivm"] ∧ place ≠ ["C.isym"]) :
    pairDisk.Apart (stampedTarget symbols).files lostTarget.files := by
  obtain ⟨-, stamped, -, -⟩ := pairDisk_places
  obtain ⟨binary, lost⟩ := pairDisk_places_lost
  rw [lostTarget] at binary lost
  simp [Disk.Apart, Disk.Holds, stampedTarget, lostTarget, stamped, binary, lost, found, other]

/-- Without the conditions on the paths a pass that fails at a module may leave another one in pieces. Its
symbols are found only afterwards, if their path climbs through a folder that comes with the backups, and they
are overwritten if they are in the index of the store. -/
theorem runPass_stops_exposed : pairDisk.Sound ∧ pairDisk.Opens pairStore.root pairStore ∧
    pairDisk.Honest pairStore.root ∧
    ∀ symbols ∈ [⟨"bk/objects/../../B.isym"⟩, ⟨"bk/index.json"⟩],
      pairDisk.Apart (stampedTarget symbols).files lostTarget.files ∧
      Set.InjOn objectId (pairDisk.involved pairStore.root [stampedTarget symbols, lostTarget]) ∧
        ∃ failure store' disk',
        Fails (runPass "f1" [stampedTarget symbols, lostTarget]) pairStore pairDisk failure store' disk' ∧
        failure.OnModule ∧
        disk'.pair (stampedTarget symbols).files ≠ pairDisk.pair (stampedTarget symbols).files ∧
        ¬ (stampedTarget symbols).Restored "f1" pairStore pairDisk disk' ∧
        ¬ (stampedTarget symbols).Rewritten "f1" pairStore pairDisk store' disk' := by
  obtain ⟨honest, digests⟩ := pairDisk_objects
  refine ⟨pairDisk_sound, pairDisk_opens, honest, List.forall_mem_cons.2 ⟨⟨?_, ?_, ?_⟩,
    List.forall_mem_singleton.2 ⟨?_, ?_, ?_⟩⟩⟩
  · exact pairDisk_apart_lost ["B.isym"] (by with_unfolding_all decide) (by decide)
  · exact digests _ (by decide +kernel)
  · have absent : pairDisk.isFile ⟨"bk/objects/../../B.isym"⟩ = false := by with_unfolding_all decide
    have loads := pairDisk_loads_bare absent
    have none := Disk.contents_eq_none.2 absent
    obtain ⟨store', disk', fails, objects, -, changes⟩ := pairDisk_fails loads (by decide)
    have fresh : ¬ pairDisk.Stale "f1" (stampedTarget ⟨"bk/objects/../../B.isym"⟩) :=
        loads.not_stale fun _ stamp => by
      cases stamp
    have found : disk'.read ⟨"bk/objects/../../B.isym"⟩ = .ok (textBytes doneModule.symbols.text) :=
      pairDisk_climbs List.mem_cons_self (by with_unfolding_all rfl) objects (changes.mono fun _ => Or.inl)
    refine ⟨_, store', disk', fails, trivial, fun same => ?_, fun restored => fresh restored.1, ?_⟩
    · have equal := (Disk.contents_eq_some.2 found).symm.trans (congrArg Prod.snd same)
      exact Option.some_ne_none _ (equal.trans none)
    · rintro ⟨bytes, bytes', _, _, _, _, _, -, -, -, -, ⟨-, before⟩ | ⟨stale, -⟩⟩
      · exact Option.some_ne_none _ ((congrArg Prod.snd before).symm.trans none)
      · exact fresh stale
  · exact pairDisk_apart_lost ["bk", "index.json"] (by with_unfolding_all decide) (by decide)
  · exact digests _ (by decide +kernel)
  · have loads := pairDisk_loads.2
    have present : pairDisk.read ⟨"bk/index.json"⟩ = .ok (textBytes indexText) := by with_unfolding_all rfl
    have path : SnapshotStore.indexPath pairStore.root = ⟨"bk/index.json"⟩ := by with_unfolding_all decide
    obtain ⟨store', disk', fails, -, index, -⟩ := pairDisk_fails loads (by decide)
    rw [path] at index
    have fresh : ¬ pairDisk.Stale "f1" (stampedTarget ⟨"bk/index.json"⟩) := loads.not_stale fun _ stamp => by
      cases stamp
    -- The new index is no text of symbols, neither that of before nor that of an instrumented module.
    have unlike {text : String} {symbols : Symbols} (parsed : Symbols.ofText? text = some symbols) :
        disk'.contents ⟨"bk/index.json"⟩ ≠ some (textBytes text) := by
      rw [Disk.contents_eq_some.2 index]
      intro same
      rw [← textBytes_inj.1 (Option.some.inj same), Symbols.ofText?_index] at parsed
      cases parsed
    refine ⟨_, store', disk', fails, trivial, fun same => ?_, fun restored => fresh restored.1, ?_⟩
    · exact unlike indexText_parsed.1 ((congrArg Prod.snd same).trans (Disk.contents_eq_some.2 present))
    · rintro ⟨_, _, _, _, _, _, _, -, -, after, -⟩
      exact unlike (Symbols.ofText?_text _) (congrArg Prod.snd after)

end Faultline
