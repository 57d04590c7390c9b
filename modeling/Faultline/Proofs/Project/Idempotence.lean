import Faultline.Proofs.Project.Moments
import Faultline.Proofs.Project.Synced
import Faultline.Proofs.Site.Stamped
import Faultline.Proofs.Site.StoredTargets

namespace Faultline

variable {fingerprint : String} {fields : FieldTypes} {next last : UInt32} {store store' : SnapshotStore}
  {disk between disk' : Disk} {target : PassTarget} {targets : List PassTarget}
  {all : List LoadedTarget} {outcomes : List PassOutcome}

/-! Modules that are up to date. -/

/-- The target's module carries the stamp. -/
def Disk.Current (disk : Disk) (fingerprint : String) (target : PassTarget) : Prop :=
  ∃ module, disk.Loads target.files module ∧ module.stampOf fingerprint = .current

theorem startsAll_of_current (store : SnapshotStore) (current : ∀ target ∈ targets, disk.Current fingerprint target) :
    ∃ all, StartsAll fingerprint store targets disk all disk ∧ all.map (·.target) = targets ∧ ∀ each ∈ all,
    each.current = true := by
  induction targets with
  | nil => exact ⟨[], .nil, rfl, fun _ member => (List.not_mem_nil member).elim⟩
  | cons target targets ih =>
    obtain ⟨⟨module, loads, stamp⟩, later⟩ := List.forall_mem_cons.1 current
    obtain ⟨rest, starts, same, left⟩ := ih later
    exact ⟨_, .cons (.current loads stamp) starts, by rw [List.map_cons, same], List.forall_mem_cons.2 ⟨rfl, left⟩⟩

theorem instrumentsAll_of_current (current : ∀ each ∈ all, each.current = true) :
    InstrumentsAll fingerprint fields all next store disk (all.map fun each => ⟨each.target.name, .upToDate⟩)
      store disk := by
  induction all with
  | nil => exact .nil
  | cons first rest ih =>
    obtain ⟨here, later⟩ := List.forall_mem_cons.1 current
    exact .cons (.current here) (ih later)

/-- What a pass over modules that are up to date goes through. -/
theorem exists_of_current (store : SnapshotStore) (current : ∀ target ∈ targets, disk.Current fingerprint target) :
    ∃ all, StartsAll fingerprint store targets disk all disk ∧ (∀ each ∈ all, each.current = true) ∧
      ∀ fields next, InstrumentsAll fingerprint fields all next store disk
        (targets.map fun target => ⟨target.name, .upToDate⟩)
        store disk := by
  obtain ⟨all, starts, same, left⟩ := startsAll_of_current store current
  have outcomes : targets.map (fun target => (⟨target.name, .upToDate⟩ : PassOutcome)) =
      all.map fun each => ⟨each.target.name, .upToDate⟩ := by
    rw [← same, List.map_map]
    rfl
  exact ⟨all, starts, left, fun fields next => outcomes ▸ instrumentsAll_of_current left⟩

/-- A pass over modules that are up to date leaves everything alone. -/
theorem does_runPass_of_current (current : ∀ target ∈ targets, disk.Current fingerprint target) :
    Does (runPass fingerprint targets) store disk (targets.map fun target => ⟨target.name, .upToDate⟩)
      store disk := by
  obtain ⟨all, starts, left, instruments⟩ := exists_of_current store current
  exact does_runPass.2 ⟨all, disk, starts, fun each member => Or.inl (left each member), instruments _ _⟩

/-- Such a pass writes no file, not even with the bytes that it holds already. -/
theorem logs_runPass_of_current (current : ∀ target ∈ targets, disk.Current fingerprint target) :
    Logs (runPass fingerprint targets) store disk (targets.map fun target => ⟨target.name, .upToDate⟩) store disk
      fun _ => False := by
  obtain ⟨all, starts, left, instruments⟩ := exists_of_current store current
  rw [runPass]
  refine (starts.logs_current left).bind ((logs_checks fun each member => Or.inl (left each member)).bind ?_)
  exact (instruments _ _).logs_current left

/-- A pass does not get past a first target whose file of symbols holds none. -/
theorem not_does_runPass_of_malformed {text : String} (found : disk.read target.files.symbols = .ok (textBytes text))
    (malformed : Symbols.ofText? text = none) :
    ¬ Does (runPass fingerprint (target :: targets)) store disk outcomes store' disk' := by
  intro pass
  obtain ⟨_, _, starts, -⟩ := does_runPass.1 pass
  have loads : ∃ module, disk.Loads target.files module := by
    cases starts with
    | cons first _ => cases first <;> exact ⟨_, ‹disk.Loads _ _›⟩
  obtain ⟨module, loads⟩ := loads
  cases loads with
  | bare _ _ absent =>
    rw [Disk.isFile_iff.2 ⟨_, found⟩] at absent
    cases absent
  | located _ _ present parsed _ =>
    have same := Except.ok.inj (found.symm.trans present)
    rw [← textBytes_inj.1 same, malformed] at parsed
    cases parsed

theorem Disk.Current.spared {start : Disk} (current : between.Current fingerprint target) (sound : start.Sound)
    (settled : start.Settled target.files.symbols) (before : start.Spares target.files between)
    (after : between.Spares target.files disk') : disk'.Current fingerprint target := by
  obtain ⟨module, loads, stamp⟩ := current
  exact ⟨module, loads.spared sound settled before after, stamp⟩

/-- What is written for an instrumented module is up to date. -/
theorem Disk.Bears.current {module done : Module} (bears : disk.Bears target.files (done.stamp fingerprint))
    (instrumented : module.instrumented fields next = .ok (done, last)) (fits : (done.stamp fingerprint).wrapped.Fits)
    (distinct : (module.methods.map Method.qualifiedName).Nodup) : disk.Current fingerprint target := by
  rw [← Module.qualifiedNames_instrumented instrumented] at distinct
  refine ⟨_, bears.loads fits distinct, ?_⟩
  rw [Module.stampOf_wrapped, Module.stampOf_stamp, if_pos rfl]

/-- After a pass every module is up to date. -/
theorem StartsAll.upToDate (starts : StartsAll fingerprint store targets disk all between) (sound : disk.Sound)
    (settled : ∀ target ∈ targets, disk.Settled target.files.symbols) (placed : disk.Placed store.root targets)
    (instruments : InstrumentsAll fingerprint fields all next store between outcomes store' disk')
    (distinct : ∀ each ∈ all, (each.module.methods.map Method.qualifiedName).Nodup)
    (fits : ∀ each ∈ all, each.current = false → ∀ next last done,
      each.module.instrumented fields next = .ok (done, last) → (done.stamp fingerprint).wrapped.Fits) :
    ∀ target ∈ targets, disk'.Current fingerprint target := by
  have around := placed.changes starts.changes
  rw [← starts.targets_eq] at around
  rw [← starts.targets_eq]
  refine List.forall_mem_map.2 fun each member => ?_
  cases current : each.current with
  | false =>
    obtain ⟨next, last, done, instrumented, bears⟩ := instruments.bears around each member current
    exact bears.current instrumented (fits each member current next last done instrumented) (distinct each member)
  | true =>
    have listed : each.target ∈ targets := starts.targets_eq ▸ List.mem_map_of_mem member
    obtain ⟨stamp, found, loads, before, after⟩ := starts.current placed (fun _ _ => .refl _) each member current
    have there : found.Current fingerprint each.target := ⟨each.module, loads, stamp⟩
    exact there.spared sound (settled _ listed) before (after.trans (instruments.spares around each member current))

/-- Once a pass has succeeded, another one with the same fingerprint finds every module up to date, whichever store it
works with. It writes no file and leaves the disk and the store alone. The store that the first one worked with can be
opened again if it could before. -/
theorem runPass_again (sound : disk.Sound) (separate : disk.Separate store.root targets)
    (settled : ∀ target ∈ targets, disk.Settled target.files.symbols)
    (loads : Does (targets.mapM (·.load fingerprint)) store disk all store between)
    (distinct : ∀ each ∈ all, (each.module.methods.map Method.qualifiedName).Nodup)
    (fits : ∀ each ∈ all, each.current = false → ∀ next last done,
      each.module.instrumented (fieldTypeIn? (all.map (·.module))) next = .ok (done, last) →
        (done.stamp fingerprint).wrapped.Fits)
    (pass : Does (runPass fingerprint targets) store disk outcomes store' disk') :
    (∀ other,
      Does (runPass fingerprint targets) other disk' (targets.map fun target => ⟨target.name, .upToDate⟩)
        other disk' ∧
      Logs (runPass fingerprint targets) other disk' (targets.map fun target => ⟨target.name, .upToDate⟩) other disk'
        fun _ => False) ∧
      (disk.Opens store.root { store with writes := 0 } → disk'.Opens store.root { store' with writes := 0 }) := by
  obtain ⟨all', between', starts, -, instruments⟩ := does_runPass.1 pass
  obtain ⟨rfl, -, rfl⟩ := loads.unique (does_passLoads.2 ⟨starts, rfl⟩)
  have current := starts.upToDate sound settled separate.placed instruments distinct fits
  refine ⟨fun other => ⟨does_runPass_of_current current, logs_runPass_of_current current⟩, fun opens => ?_⟩
  have synced : store.Synced between := starts.synced opens separate.placed
  have around := separate.placed.changes starts.changes
  rw [← starts.targets_eq] at around
  rw [← instruments.root]
  exact instruments.synced synced around

/-! A module up to date beside one with a load that is not instrumented yet, and one whose source is not known. -/

def briefModule (name : String) : Module where
  name := name
  optimized := false
  debugInfo := .full
  metadata := .empty
  classes := []
  methods := [⟨"C", "m", true, [], [], none, [], none⟩]
  sites := []

def readMethod (document : String) : Method :=
  ⟨"C", "m", true, [], [.int32], none, [],
    some #[⟨.loadLocal 0, some ⟨document, 1, 1, 1, 2⟩⟩, ⟨.pop, none⟩, ⟨.return, none⟩]⟩

def readModule (name : String) : Module := { briefModule name with methods := [readMethod name] }

/-- The module with its site. -/
def readDone (name : String) (first : UInt32) : Module :=
  { readModule name with
    methods := (instrumentMethods (fun _ => none) [readMethod name] first).methods
    sites := [⟨first, .int32, ⟨name, 1, 1, 1, 2⟩, "C::m"⟩] }

theorem readModule_instrumented (name : String) (fields : FieldTypes) (first : UInt32) :
    (readModule name).instrumented fields first = .ok (readDone name first, first + 1) := rfl

/-- Whatever the number of its site, the instrumented module can be stored. -/
theorem readDone_fits {name version : String} (named : name ∈ ["A", "B"]) (versioned : version ∈ ["f1", "f2"])
    (first : UInt32) : ((readDone name first).stamp version).wrapped.Fits := by
  have small : ∀ name ∈ ["A", "B"], (readModule name).Fits ∧ TextFits name := by decide
  have metadata : ∀ version ∈ ["f1", "f2"], ListFits (fun entry => TextFits entry.1 ∧ TextFits entry.2)
      (Table.empty.insert stampKey version).entries := by decide
  obtain ⟨fits, short⟩ := small name named
  have size : ∀ method ∈ (readDone name first).methods, method.code.size = 12 := by
    refine List.forall_mem_singleton.2 ?_
    change (insertAfter _ 0 _).size = 12
    rw [size_insertAfter]
    rfl
  have single : (readModule name).SinglePass (fun _ => none) first _ _ (readDone name first).sites :=
    Module.singlePass_of_sites rfl
  have whole := single.fits_wrapped fits (fun method member => (size method member).trans_lt (by decide))
    (List.forall_mem_singleton.2 ⟨short, trivial⟩)
  exact ⟨whole.name, metadata version versioned, whole.classes, whole.methods⟩

/-- The symbols of the module, in few words. -/
def readSymbols (name : String) : String :=
  "[\"" ++ name ++ "\",[[\"C::m\",[[\"" ++ name ++ "\",1,1,1,2],null,null]]],[]]"

/-- The files hold the module and its symbols. -/
def Disk.Reads (disk : Disk) (target : PassTarget) : Prop :=
  disk.Contains target.files (readModule target.name).encode (textBytes (readSymbols target.name))

theorem Disk.Reads.loads {target : PassTarget} (reads : disk.Reads target) (named : target.name ∈ ["A", "B"]) :
    disk.Loads target.files (readModule target.name) := by
  have sound : ∀ name ∈ ["A", "B"], (readModule name).Fits ∧
      Symbols.ofText? (readSymbols name) = some (readModule name).symbols := by
    decide +kernel
  obtain ⟨fits, parsed⟩ := sound _ named
  exact .located reads.binary (Module.decode_of_fits fits) reads.symbols parsed
    (Module.symbols_applyTo_bare (List.nodup_singleton _))

/-- A module with a load that has no location. -/
def lostModule : Module :=
  { briefModule "C" with
    methods := [⟨"C", "m", true, [], [.int32], none, [],
      some #[⟨.loadLocal 0, none⟩, ⟨.pop, none⟩, ⟨.return, none⟩]⟩] }

def lostSymbols : String := "[\"C\",[[\"C::m\",[null,null,null]]],[]]"

/-- The module that is up to date. -/
def doneModule : Module := (readDone "B" 0).stamp "f1"

/-- An index of backups that counts as symbols of the module as well. -/
def indexText : String :=
  "\x7b\"modules\":\x7b\x7d,\"module\":\"B\",\"methods\":[],\"sites\":[[0,\"Int32\",[\"B\",1,1,1,2],\"C::m\"]]\x7d"

def pairStore : SnapshotStore := ⟨⟨"bk"⟩, .empty, 0⟩

def plainTarget : PassTarget := ⟨"A", ⟨⟨"A.ivm"⟩, ⟨"A.isym"⟩⟩⟩

def lostTarget : PassTarget := ⟨"C", ⟨⟨"C.ivm"⟩, ⟨"C.isym"⟩⟩⟩

def stampedTarget (symbols : Path) : PassTarget := ⟨"B", ⟨⟨"B.ivm"⟩, symbols⟩⟩

def pairDisk : Disk where
  nodes := .ofList [(["A.ivm"], .file (readModule "A").encode), (["A.isym"], .file (textBytes (readSymbols "A"))),
    (["B.ivm"], .file doneModule.encode), (["B.isym"], .file (textBytes doneModule.symbols.text)),
    (["C.ivm"], .file lostModule.encode), (["C.isym"], .file (textBytes lostSymbols)),
    (["D.isym"], .file (textBytes "[]")), (["bk"], .folder), (["bk", "index.json"], .file (textBytes indexText))]
  workingFolder := []

theorem pairDisk_sound : pairDisk.Sound := Disk.sound_of_entries (by decide)

theorem indexText_parsed : Symbols.ofText? indexText = some ⟨"B", [], doneModule.sites⟩ ∧
    SnapshotIndex.ofText? indexText = some .empty := by
  decide +kernel

theorem pairDisk_opens : pairDisk.Opens ⟨"bk"⟩ pairStore :=
  Disk.opens_iff.2 ⟨.empty, rfl, Or.inl ⟨indexText, by with_unfolding_all rfl, indexText_parsed.2⟩⟩

theorem pairDisk_plain : pairDisk.Reads plainTarget := ⟨by with_unfolding_all rfl, by with_unfolding_all rfl⟩

theorem pairDisk_bears : pairDisk.Bears (stampedTarget ⟨"B.isym"⟩).files doneModule :=
  ⟨by with_unfolding_all rfl, by with_unfolding_all rfl⟩

/-- The stamped module is loaded with its site, from its own symbols and from the index alike. -/
theorem pairDisk_loads : pairDisk.Loads (stampedTarget ⟨"B.isym"⟩).files doneModule.wrapped ∧
    pairDisk.Loads (stampedTarget ⟨"bk/index.json"⟩).files
      { doneModule.wrapped.bare with sites := doneModule.sites } := by
  have fits : doneModule.wrapped.Fits := readDone_fits (by decide) (by decide) 0
  refine ⟨pairDisk_bears.loads fits (List.nodup_singleton _), ?_⟩
  exact .located pairDisk_bears.binary (Module.decode_encode_wrapped fits)
    (by with_unfolding_all rfl) indexText_parsed.1 rfl

theorem pairDisk_loads_bare {symbols : Path} (absent : pairDisk.isFile symbols = false) :
    pairDisk.Loads (stampedTarget symbols).files doneModule.wrapped.bare :=
  .bare pairDisk_bears.binary (Module.decode_encode_wrapped (readDone_fits (by decide) (by decide) 0)) absent

theorem pairDisk_places : pairDisk.placeOf pairStore.root = ["bk"] ∧ pairDisk.placeOf ⟨"B.ivm"⟩ = ["B.ivm"] ∧
    pairDisk.placeOf plainTarget.files.binary = ["A.ivm"] ∧
    pairDisk.placeOf plainTarget.files.symbols = ["A.isym"] := by
  with_unfolding_all decide

/-- The backup makes a folder for the objects, and it writes the index anew. -/
theorem pairDisk_backs : ∃ entry store' between, pairStore.Backs pairDisk "A" plainTarget.files entry store' between ∧
    between.node? ["bk", "objects"] = some .folder ∧
    between.read (SnapshotStore.indexPath pairStore.root) = .ok (textBytes store'.index.text) := by
  have ended : ((Work.ending (SnapshotStore.backup "A" plainTarget.files) pairStore pairDisk).1.1.toOption).isSome ∧
      (Work.ending (SnapshotStore.backup "A" plainTarget.files) pairStore pairDisk).2.node? ["bk", "objects"] =
        some .folder := by
    decide +kernel
  obtain ⟨entry, done⟩ := Option.isSome_iff_exists.1 ended.1
  have backs := SnapshotStore.does_backup.1 (does_of_toOption done)
  exact ⟨entry, _, _, backs, ended.2, backs.indexed fun recorded => by cases recorded⟩

theorem pairDisk_outside : ∀ place, pairDisk.Holds plainTarget.files place →
    ¬ pairDisk.Stored pairStore.root place := by
  obtain ⟨root, -, binary, symbols⟩ := pairDisk_places
  intro place held
  rw [Disk.Holds, binary, symbols] at held
  rw [Disk.Stored, root]
  rcases held with rfl | rfl <;> decide

/-- After the backup the module is stored with its site. -/
theorem pairDisk_stores {entry : SnapshotEntry} {store' : SnapshotStore} {between : Disk}
    (backs : pairStore.Backs pairDisk "A" plainTarget.files entry store' between) (id : UInt32) :
    between.placeOf plainTarget.files.binary ≠ between.placeOf plainTarget.files.symbols ∧
      ∃ disk', between.Stores plainTarget.files ((readDone "A" id).stamp "f1") disk' := by
  obtain ⟨-, -, binary, symbols⟩ := pairDisk_places
  have own : between.placeOf plainTarget.files.binary ≠ between.placeOf plainTarget.files.symbols := by
    rw [backs.changes.placeOf, backs.changes.placeOf, binary, symbols]
    decide
  have stood := pairDisk_plain.spared (backs.changes_stored.spares pairDisk_outside)
  exact ⟨own, Disk.Stores.of_prepared stood.prepared stood own _⟩

theorem pairDisk_starts {symbols : Path} {module : Module}
    (loads : pairDisk.Loads (stampedTarget symbols).files module) (stamp : module.stampOf "f1" = .current) :
    StartsAll "f1" pairStore [stampedTarget symbols, plainTarget] pairDisk
      [⟨stampedTarget symbols, module, true, false⟩, ⟨plainTarget, readModule "A", false, false⟩] pairDisk :=
  .cons (.current loads stamp) (.cons (.unstamped (pairDisk_plain.loads (by decide)) rfl) .nil)

theorem pairDisk_usedIds {symbols : Path} {module : Module} :
    usedIds [⟨stampedTarget symbols, module, true, false⟩, ⟨plainTarget, readModule "A", false, false⟩] pairDisk =
      pairDisk.siteIds (stampedTarget symbols).files := by
  simp [usedIds]

/-- A pass over the two modules instruments the one, whose number follows those of the other. -/
theorem pairDisk_pass {symbols : Path} {module : Module} (loads : pairDisk.Loads (stampedTarget symbols).files module)
    (stamp : module.stampOf "f1" = .current) : ∃ outcomes store' disk',
      Does (runPass "f1" [stampedTarget symbols, plainTarget]) pairStore pairDisk outcomes store' disk' ∧
      newSites outcomes = 1 ∧ disk'.node? ["bk", "objects"] = some .folder ∧
      (∃ index : SnapshotIndex, disk'.read (SnapshotStore.indexPath pairStore.root) = .ok (textBytes index.text)) ∧
      disk'.siteIds plainTarget.files = [.ofNat (firstFree (pairDisk.siteIds (stampedTarget symbols).files))] ∧
      Disk.Changes (fun place => pairDisk.Stored pairStore.root place ∨ pairDisk.Holds plainTarget.files place)
        pairDisk disk' := by
  obtain ⟨entry, store', between, backs, objects, index⟩ := pairDisk_backs
  have first : siteIdAfter (LoadedTarget.usedSiteId? [⟨stampedTarget symbols, module, true, false⟩,
      ⟨plainTarget, readModule "A", false, false⟩]) = .ofNat (firstFree (pairDisk.siteIds
      (stampedTarget symbols).files)) := by
    rw [LoadedTarget.usedSiteId?_eq, siteIdAfter_eq, loads.siteIds]
    simp
  obtain ⟨id, named⟩ : ∃ id : UInt32,
    id = .ofNat (firstFree (pairDisk.siteIds (stampedTarget symbols).files)) := ⟨_, rfl⟩
  rw [← named] at first ⊢
  obtain ⟨own, disk', stores⟩ := pairDisk_stores backs id
  have instruments : InstrumentsAll "f1" (fieldTypeIn? [module, readModule "A"])
      [⟨stampedTarget symbols, module, true, false⟩, ⟨plainTarget, readModule "A", false, false⟩]
      id pairStore pairDisk _ store' disk' :=
    .cons (.current rfl) (.cons (.other rfl backs (readModule_instrumented "A" _ id) stores) .nil)
  refine ⟨_, store', disk', does_runPass.2 ⟨_, _, pairDisk_starts loads stamp, ?_, first ▸ instruments⟩,
    ?_, ?_, ?_, ?_, ?_⟩
  · refine List.forall_mem_cons.2 ⟨Or.inl rfl, List.forall_mem_singleton.2 (Or.inr ⟨by decide, ?_⟩)⟩
    exact Disk.isFile_iff.2 ⟨_, pairDisk_plain.symbols⟩
  · rfl
  · exact stores.changes.folders _ objects
  · refine ⟨store'.index, stores.changes.read (fun held => ?_) index⟩
    rw [backs.changes.holds, backs.changes.placeOf, placeOf_indexPath] at held
    exact pairDisk_outside _ held (pairDisk.stored_index _)
  · exact (stores.bears own).siteIds
  · refine (backs.changes_stored.mono fun _ => Or.inl).trans (stores.changes.mono fun place held => Or.inr ?_)
    rwa [backs.changes.holds] at held

/-- A file whose path climbs through the folder of the objects is found after the pass. -/
theorem pairDisk_climbs {disk' : Disk} {path : Path} {name : String} {bytes : Bytes}
    (listed : (path, name) ∈ [(⟨"bk/objects/../../B.isym"⟩, "B.isym"), (⟨"bk/objects/../../D.isym"⟩, "D.isym")])
    (file : pairDisk.file? [name] = some bytes) (objects : disk'.node? ["bk", "objects"] = some .folder)
    (changes : Disk.Changes (fun place => pairDisk.Stored pairStore.root place ∨
      pairDisk.Holds plainTarget.files place)
      pairDisk disk') : disk'.read path = .ok bytes := by
  have known : ∀ climb ∈ [(⟨"bk/objects/../../B.isym"⟩, "B.isym"), (⟨"bk/objects/../../D.isym"⟩, "D.isym")],
      pairDisk.start climb.1 = [] ∧ Path.steps climb.1 = ["bk", "objects", "..", "..", climb.2] ∧
      pairDisk.placeOf climb.1 = [climb.2] ∧ Path.text climb.1 ≠ "" ∧ ¬ (["bk"] <+: [climb.2]) ∧
      [climb.2] ≠ ["A.ivm"] ∧ [climb.2] ≠ ["A.isym"] := by
    with_unfolding_all decide
  obtain ⟨start, steps, place, nonempty, outside, binary, symbols⟩ := known _ listed
  have folder : disk'.node? ["bk"] = some .folder := changes.folders _ (by decide)
  refine Disk.read_eq_ok.2 ⟨⟨nonempty, ?_⟩, ?_⟩
  · rw [changes.start, start, steps]
    exact .cons rfl (.cons folder (.cons objects (.cons folder (.cons rfl .nil))))
  · rw [changes.placeOf, place, changes.files, file]
    rintro (stored | held)
    · exact outside (pairDisk_places.1 ▸ stored.below)
    · rw [Disk.Holds, pairDisk_places.2.2.1, pairDisk_places.2.2.2] at held
      exact held.elim binary symbols

theorem pairDisk_separate {symbols : Path} {name : String} (place : pairDisk.placeOf symbols = [name])
    (other : name ∉ ["A.ivm", "A.isym", "B.ivm", "bk"]) :
    pairDisk.Separate pairStore.root [stampedTarget symbols, plainTarget] := by
  have places := pairDisk_places
  rw [plainTarget] at places
  simp only [List.mem_cons, List.not_mem_nil, or_false, not_or] at other
  refine ⟨?_, ?_, ?_⟩ <;>
    simp [Disk.Apart, Disk.Holds, stampedTarget, plainTarget, places, place, other, Ne.symm other.2.2.1,
      Ne.symm other.2.2.2]

theorem pairDisk_distinct {symbols : Path} {module : Module} (methods : module.methods.length = 1) :
    ∀ each ∈ ([⟨stampedTarget symbols, module, true, false⟩, ⟨plainTarget, readModule "A", false, false⟩] :
      List LoadedTarget),
      (each.module.methods.map Method.qualifiedName).Nodup := by
  obtain ⟨method, one⟩ := List.length_eq_one_iff.1 methods
  refine List.forall_mem_cons.2 ⟨?_, List.forall_mem_singleton.2 (List.nodup_singleton _)⟩
  rw [one]
  exact List.nodup_singleton _

/-- What the pass writes for the one target that is not current fits the format. -/
theorem pairDisk_fits {symbols : Path} {module : Module} {fields : FieldTypes} :
    ∀ each ∈ ([⟨stampedTarget symbols, module, true, false⟩, ⟨plainTarget, readModule "A", false, false⟩] :
      List LoadedTarget),
      each.current = false → ∀ next last done, each.module.instrumented fields next = .ok (done, last) →
        (done.stamp "f1").wrapped.Fits := by
  refine List.forall_mem_cons.2 ⟨fun current => (by cases current), List.forall_mem_singleton.2 ?_⟩
  intro _ next last done instrumented
  rw [readModule_instrumented] at instrumented
  cases instrumented
  exact readDone_fits (by decide) (by decide) next

theorem pairDisk_settled {symbols : Path} (level : ".." ∉ symbols.steps) :
    ∀ target ∈ [stampedTarget symbols, plainTarget], pairDisk.Settled target.files.symbols := by
  refine List.forall_mem_cons.2 ⟨fun climbs => absurd climbs level, List.forall_mem_singleton.2 fun climbs => ?_⟩
  exact absurd climbs (by with_unfolding_all decide)

/-- A stamped target with burned-in ids beside one that the first pass instruments. -/
theorem runPass_again_pair : ∃ outcomes store' disk',
    Does (runPass "f1" [stampedTarget ⟨"B.isym"⟩, plainTarget]) pairStore pairDisk outcomes store' disk' ∧
    (∀ other,
      Does (runPass "f1" [stampedTarget ⟨"B.isym"⟩, plainTarget]) other disk'
        [⟨"B", .upToDate⟩, ⟨"A", .upToDate⟩] other disk' ∧
      Logs (runPass "f1" [stampedTarget ⟨"B.isym"⟩, plainTarget]) other disk'
        [⟨"B", .upToDate⟩, ⟨"A", .upToDate⟩] other disk'
        fun _ => False) ∧ disk'.Opens ⟨"bk"⟩ { store' with writes := 0 } := by
  have stamp : doneModule.wrapped.stampOf "f1" = .current := by decide
  have place : pairDisk.placeOf ⟨"B.isym"⟩ = ["B.isym"] := by with_unfolding_all decide
  obtain ⟨outcomes, store', disk', pass, -⟩ := pairDisk_pass pairDisk_loads.1 stamp
  obtain ⟨again, opens⟩ := runPass_again pairDisk_sound (pairDisk_separate place (by decide))
    (pairDisk_settled (by with_unfolding_all decide)) (does_passLoads.2 ⟨pairDisk_starts pairDisk_loads.1 stamp, rfl⟩)
    (pairDisk_distinct rfl) pairDisk_fits pass
  exact ⟨outcomes, store', disk', pass, again, opens pairDisk_opens⟩

/-- A path may climb through a folder that only comes with the backups. The symbols that it leads to then are
no symbols at all, and the second pass fails. -/
theorem runPass_again_climbing : pairDisk.Sound ∧
    pairDisk.Separate pairStore.root [stampedTarget ⟨"bk/objects/../../D.isym"⟩, plainTarget] ∧
    ∃ all, Does ([stampedTarget ⟨"bk/objects/../../D.isym"⟩, plainTarget].mapM (·.load "f1")) pairStore pairDisk all
        pairStore pairDisk ∧
      (∀ each ∈ all, (each.module.methods.map Method.qualifiedName).Nodup) ∧
      (∀ each ∈ all, each.current = false → ∀ next last done,
        each.module.instrumented (fieldTypeIn? (all.map (·.module))) next = .ok (done, last) →
          (done.stamp "f1").wrapped.Fits) ∧
      ∃ outcomes store' disk',
        Does (runPass "f1" [stampedTarget ⟨"bk/objects/../../D.isym"⟩, plainTarget]) pairStore pairDisk
          outcomes store' disk' ∧
        ∀ other again other' disk'',
          ¬ Does (runPass "f1" [stampedTarget ⟨"bk/objects/../../D.isym"⟩, plainTarget]) other disk' again
            other' disk'' := by
  have absent : pairDisk.isFile ⟨"bk/objects/../../D.isym"⟩ = false := by with_unfolding_all decide
  have place : pairDisk.placeOf ⟨"bk/objects/../../D.isym"⟩ = ["D.isym"] := by with_unfolding_all decide
  have stamp : doneModule.wrapped.bare.stampOf "f1" = .current := by decide
  have malformed : Symbols.ofText? "[]" = none := by decide
  have loads := pairDisk_loads_bare absent
  obtain ⟨outcomes, store', disk', pass, -, objects, -, -, changes⟩ := pairDisk_pass loads stamp
  have found : disk'.read ⟨"bk/objects/../../D.isym"⟩ = .ok (textBytes "[]") :=
    pairDisk_climbs (List.mem_cons_of_mem _ List.mem_cons_self) (by with_unfolding_all rfl) objects changes
  exact ⟨pairDisk_sound, pairDisk_separate place (by decide), _, does_passLoads.2 ⟨pairDisk_starts loads stamp, rfl⟩,
    pairDisk_distinct rfl, pairDisk_fits, outcomes, store', disk', pass,
    fun other again other' disk'' => not_does_runPass_of_malformed found malformed⟩

end Faultline
