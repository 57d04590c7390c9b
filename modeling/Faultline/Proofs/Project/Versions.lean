import Faultline.Proofs.Project.Origins

namespace Faultline

open Origin

/-- What the files of the targets hold. -/
def Disk.heldBy (disk : Disk) (targets : List PassTarget) : Set Bytes :=
  { bytes | ∃ target ∈ targets, disk.read target.files.binary = .ok bytes ∨
    disk.read target.files.symbols = .ok bytes }

/-- Targets whose files form modules that no pass has been over, and a store without any backup in it. -/
structure Pristine (root : Path) (targets : List PassTarget) (modules : List Module) (disk : Disk) : Prop where
  names : (targets.map (·.name)).Nodup
  binaries : (targets.map fun target => disk.placeOf target.files.binary).Nodup
  symbols : (targets.map fun target => disk.placeOf target.files.symbols).Nodup
  opens : disk.Opens root ⟨root, .empty, 0⟩
  vacant : ∀ place, disk.placeOf root ++ ["objects"] <+: place → disk.file? place = none
  loads : List.Forall₂ (fun target module => disk.Loads target.files module) targets modules
  unstamped : ∀ module ∈ modules, module.metadata.get? stampKey = none
  distinct : ∀ module ∈ modules, (module.methods.map Method.qualifiedName).Nodup
  /-- Different contents have different digests. -/
  digests : Set.InjOn objectId (disk.heldBy targets)

/-- The store and the disk after passes over all targets, each for one of the fingerprints, the latest first.
The store may be opened anew at any time. -/
inductive Rewrites (root : Path) (targets : List PassTarget) (start : Disk) :
    List String → SnapshotStore → Disk → Prop
  | opened {store : SnapshotStore} (opens : start.Opens root store) : Rewrites root targets start [] store start
  | reopened {versions : List String} {store store' : SnapshotStore} {disk : Disk}
      (before : Rewrites root targets start versions store disk) (opens : disk.Opens root store') :
      Rewrites root targets start versions store' disk
  | pass {versions : List String} {fingerprint : String} {store store' : SnapshotStore} {disk disk' : Disk}
      {outcomes : List PassOutcome} (before : Rewrites root targets start versions store disk)
      (does : Does (runPass fingerprint targets) store disk outcomes store' disk') :
      Rewrites root targets start (fingerprint :: versions) store' disk'

variable {root : Path} {targets : List PassTarget} {modules : List Module} {fingerprint fingerprint₀ : String}
  {versions : List String} {store store' store₀ store₁ : SnapshotStore} {start disk disk' disk₁ : Disk}
  {outcomes : List PassOutcome} {origins : List Origin}

theorem Disk.Opens.unique (opens : disk.Opens root store) (opens' : disk.Opens root store') : store = store' :=
  Except.ok.inj (opens.symm.trans opens')

/-- Unstamped targets are loaded as they are, not current and not restored. -/
theorem startsAll_of_unstamped (fingerprint : String) (store : SnapshotStore)
    (loads : List.Forall₂ (fun target module => disk.Loads target.files module) targets modules)
    (unstamped : ∀ module ∈ modules, module.metadata.get? stampKey = none) :
    ∃ all, StartsAll fingerprint store targets disk all disk ∧ all.map (·.target) = targets ∧
      all.map (·.module) = modules ∧
      ∀ each ∈ all, (each.current = false ∧ each.restored = false) ∧ disk.Loads each.target.files each.module := by
  induction loads with
  | nil => exact ⟨[], .nil, rfl, rfl, fun _ member => (List.not_mem_nil member).elim⟩
  | @cons target module _ _ first _ ih =>
    obtain ⟨here, later⟩ := List.forall_mem_cons.1 unstamped
    obtain ⟨all, starts, rfl, rfl, plain⟩ := ih later
    have stamp : module.stampOf fingerprint = .unstamped := by rw [Module.stampOf, here]
    exact ⟨⟨target, module, false, false⟩ :: all, .cons (.unstamped first stamp) starts, rfl, rfl,
      List.forall_mem_cons.2 ⟨⟨⟨rfl, rfl⟩, first⟩, plain⟩⟩

namespace Pristine

/-- Where a pass succeeds, the targets have their origins. -/
theorem exists_origins (pristine : Pristine root targets modules start)
    (first : Does (runPass fingerprint targets) store start outcomes store' disk') :
    ∃ origins, origins.map (·.target) = targets ∧ origins.map (·.module) = modules ∧
      (∀ origin ∈ origins, origin.Fresh) ∧
      (∀ origin ∈ origins, origin.Stands start) ∧ Numbered (fieldTypeIn? (origins.map (·.module))) origins 0 := by
  obtain ⟨all, between, starts, admitted, instruments⟩ := does_runPass.1 first
  obtain ⟨all', starts', rfl, rfl, plain⟩ :=
    startsAll_of_unstamped fingerprint store pristine.loads pristine.unstamped
  obtain ⟨rfl, -, rfl⟩ := (does_passLoads.2 ⟨starts', rfl⟩).unique (does_passLoads.2 ⟨starts, rfl⟩)
  have admitted : ∀ each ∈ all', each.module.isInstrumentable = true ∧
      start.isFile each.target.files.symbols = true :=
    fun each member => (admitted each member).of_not_current (plain each member).1.1
  obtain ⟨origins, rfl, numbered, stands⟩ := instruments.exists_origins (fun each member => (plain each member).1)
    fun each member => (plain each member).2.exists_contains (admitted each member).2
  have modules : (origins.map (·.loaded false)).map (·.module) = origins.map (·.module) := by
    rw [List.map_map]
    rfl
  rw [usedSiteId?_loaded, modules] at numbered
  rw [modules] at pristine
  refine ⟨origins, by rw [List.map_map]; rfl, modules.symm, fun origin member => ?_, stands, numbered⟩
  have listed : origin.loaded false ∈ origins.map (·.loaded false) := List.mem_map_of_mem member
  have declared : origin.module ∈ origins.map (·.module) := List.mem_map_of_mem member
  exact {
    loads := fun disk there => (plain _ listed).2.of_contains (stands origin member) there
    unstamped := fun fingerprint => by rw [Module.stampOf, pristine.unstamped _ declared]
    instrumentable := (admitted _ listed).1
    distinct := by
      obtain ⟨_, _, instrumented⟩ := numbered.instrumented origin member
      rw [Module.qualifiedNames_instrumented instrumented]
      exact pristine.distinct _ declared }

/-- Targets that hold different files, all of them there and none of them the index, hold none of the store's. -/
theorem placed (pristine : Pristine root (origins.map (·.target)) modules start)
    (fresh : ∀ origin ∈ origins, origin.Fresh) (stands : ∀ origin ∈ origins, origin.Stands start)
    (outside : ∀ target ∈ origins.map (·.target), ¬ start.Holds target.files (start.placeOf root ++ ["index.json"])) :
    start.Placed root (origins.map (·.target)) := by
  have cross : ∀ origin ∈ origins, ∀ other ∈ origins,
      start.placeOf origin.target.files.binary ≠ start.placeOf other.target.files.symbols :=
      fun origin member other member' =>
    ((fresh origin member).loads start (stands origin member)).place_ne
      ((fresh other member').loads start (stands other member'))
      (Disk.isFile_iff.2 ⟨_, (stands other member').symbols⟩)
  refine ⟨List.forall_mem_map.2 fun origin member => cross origin member origin member, ?_, List.forall_mem_map.2 ?_⟩
  · have binaries := pristine.binaries
    have symbols := pristine.symbols
    rw [List.map_map, List.Nodup, List.pairwise_map] at binaries symbols
    rw [List.pairwise_map]
    refine (binaries.and symbols).imp_of_mem fun member member' different place held held' => ?_
    rcases held with rfl | rfl <;> rcases held' with same | same
    · exact different.1 same
    · exact cross _ member _ member' same
    · exact cross _ member' _ member same.symm
    · exact different.2 same
  · rintro origin member place held (rfl | object)
    · exact outside _ (List.mem_map_of_mem member) held
    have file : start.file? place ≠ none := by
      rcases held with rfl | rfl
      · rw [(Disk.read_eq_ok.1 (stands origin member).binary).2]
        exact Option.some_ne_none _
      · rw [(Disk.read_eq_ok.1 (stands origin member).symbols).2]
        exact Option.some_ne_none _
    exact file (pristine.vacant place object)

/-- The first pass, whatever its fingerprint. -/
theorem rewrites (pristine : Pristine root (origins.map (·.target)) modules start)
    (fresh : ∀ origin ∈ origins, origin.Fresh) (stands : ∀ origin ∈ origins, origin.Stands start)
    (numbered : Numbered (fieldTypeIn? (origins.map (·.module))) origins 0)
    (outside : ∀ target ∈ origins.map (·.target), ¬ start.Holds target.files (start.placeOf root ++ ["index.json"]))
    (first : Does (runPass fingerprint (origins.map (·.target))) ⟨root, .empty, 0⟩ start outcomes store' disk')
    (fingerprint' : String) :
    ∃ outcomes' disk'', Does (runPass fingerprint' (origins.map (·.target)))
      ⟨root, .empty, 0⟩ start outcomes' store' disk'' ∧
      store'.root = root ∧ Rewritten origins fingerprint' store' disk'' := by
  have starts := fun fingerprint => startsAll_of_stands fingerprint ⟨root, .empty, 0⟩ fresh stands
  have placed := pristine.placed fresh stands outside
  have loaded : (origins.map (·.loaded false)).map (·.target) = origins.map (·.target) := by
    rw [List.map_map]
    rfl
  have instruments := (does_runPass_loaded fresh (starts fingerprint) stands).1 first
  have alike : Disk.Alike (fun _ => False) start start := .refl start
  obtain ⟨disk'', instruments'⟩ := instruments.alike fingerprint' alike (loaded ▸ placed) fun _ _ _ _ => id
  have names : (origins.map (·.target.name)).Nodup := by
    have names := pristine.names
    rwa [List.map_map] at names
  have genuine : (⟨root, .empty, 0⟩ : SnapshotStore).Genuine start (start.heldBy (origins.map (·.target))) := by
    intro bytes _ found file
    rw [pristine.vacant _ ⟨[objectId bytes], by rw [List.append_assoc]; rfl⟩] at file
    cases file
  have held : ∀ origin ∈ origins, origin.bytes ∈ start.heldBy (origins.map (·.target)) ∧
      origin.bytes' ∈ start.heldBy (origins.map (·.target)) := fun origin member =>
    ⟨⟨_, List.mem_map_of_mem member, Or.inl (stands origin member).binary⟩,
      ⟨_, List.mem_map_of_mem member, Or.inr (stands origin member).symbols⟩⟩
  have done := instruments'.rewrites numbered placed names genuine pristine.digests stands held
  refine ⟨_, disk'', (does_runPass_loaded fresh (starts fingerprint') stands).2 instruments', instruments'.root, ?_⟩
  exact {
    placed := by
      rw [instruments'.root]
      exact placed.changes instruments'.changes
    stamped := fun origin member => (done origin member).1
    prepared := fun origin member => (done origin member).2.1
    secured := fun origin member => (done origin member).2.2
    synced := instruments'.synced pristine.opens (loaded ▸ placed) }

end Pristine

theorem Rewritten.reopened (rewritten : Rewritten origins fingerprint store disk)
    (opens : disk.Opens store.root store') :
    store'.root = store.root ∧ Rewritten origins fingerprint store' disk := by
  obtain rfl := rewritten.synced.unique opens
  exact ⟨rfl, rewritten.placed, rewritten.stamped, rewritten.prepared,
    fun origin member => ⟨(rewritten.secured origin member).recorded, (rewritten.secured origin member).binary,
      (rewritten.secured origin member).symbols⟩, rewritten.synced⟩

/-- A pass after a pass, for the same fingerprint or another. -/
theorem Rewritten.pass (rewritten : Rewritten origins fingerprint store disk)
    (fresh : ∀ origin ∈ origins, origin.Fresh)
    (fits : ∀ origin ∈ origins, (origin.done.stamp fingerprint).wrapped.Fits)
    (numbered : Numbered (fieldTypeIn? (origins.map (·.module))) origins 0) (fingerprint' : String) :
    ∃ outcomes disk', Does (runPass fingerprint' (origins.map (·.target))) store disk outcomes store disk' ∧
      Rewritten origins fingerprint' store disk' := by
  by_cases same : fingerprint = fingerprint'
  · subst same
    obtain ⟨outcomes, does⟩ := rewritten.again fresh fits
    exact ⟨outcomes, disk, does, rewritten⟩
  · obtain ⟨outcomes, disk', does, -, rewritten'⟩ := rewritten.anew fresh fits numbered same
    exact ⟨outcomes, disk', does, rewritten'⟩

/-- How things stand after passes, the latest first: as they were at first, or as the latest pass leaves them. -/
def Origin.After (origins : List Origin) (root : Path) (store₀ : SnapshotStore) (start : Disk) :
    List String → SnapshotStore → Disk → Prop
  | [], store, disk => store = store₀ ∧ disk = start
  | version :: _, store, disk => store.root = root ∧ Rewritten origins version store disk

/-- Any pass succeeds at first. -/
def Origin.Begins (origins : List Origin) (root : Path) (store₀ : SnapshotStore) (start : Disk) : Prop :=
  ∀ fingerprint, ∃ outcomes store disk,
    Does (runPass fingerprint (origins.map (·.target))) store₀ start outcomes store disk ∧
    store.root = root ∧ Rewritten origins fingerprint store disk

/-- Any pass succeeds at any time. -/
theorem Origin.After.pass (after : After origins root store₀ start versions store disk)
    (begins : Begins origins root store₀ start) (fresh : ∀ origin ∈ origins, origin.Fresh)
    (numbered : Numbered (fieldTypeIn? (origins.map (·.module))) origins 0)
    (fits : ∀ version ∈ versions, ∀ origin ∈ origins, (origin.done.stamp version).wrapped.Fits)
    (fingerprint : String) :
    ∃ outcomes store' disk', Does (runPass fingerprint (origins.map (·.target))) store disk outcomes store' disk' ∧
      store'.root = root ∧ Rewritten origins fingerprint store' disk' := by
  cases versions with
  | nil =>
    obtain ⟨rfl, rfl⟩ := after
    exact begins fingerprint
  | cons version _ =>
    obtain ⟨same, rewritten⟩ := after
    obtain ⟨outcomes, disk', does, rewritten'⟩ :=
      rewritten.pass fresh (fits version List.mem_cons_self) numbered fingerprint
    exact ⟨outcomes, store, disk', does, same, rewritten'⟩

/-- The induction over a chain of passes and reopenings: after each of them every target is what its origin
gives under the last version, with its backup in the store. -/
theorem Rewrites.after (rewrites : Rewrites root (origins.map (·.target)) start versions store disk)
    (opens : start.Opens root store₀) (begins : Begins origins root store₀ start)
    (fresh : ∀ origin ∈ origins, origin.Fresh)
    (numbered : Numbered (fieldTypeIn? (origins.map (·.module))) origins 0)
    (fits : ∀ version ∈ versions, ∀ origin ∈ origins, (origin.done.stamp version).wrapped.Fits) :
    After origins root store₀ start versions store disk := by
  induction rewrites with
  | opened opens' => exact ⟨opens'.unique opens, rfl⟩
  | @reopened versions _ _ _ _ opens' ih =>
    have after := ih fits
    cases versions with
    | nil =>
      obtain ⟨-, rfl⟩ := after
      exact ⟨opens'.unique opens, rfl⟩
    | cons version _ =>
      obtain ⟨rfl, rewritten⟩ := after
      exact rewritten.reopened opens'
  | pass _ does ih =>
    have fits := fun version member => fits version (List.mem_cons_of_mem _ member)
    obtain ⟨_, _, _, does', rewritten⟩ := (ih fits).pass begins fresh numbered fits _
    obtain ⟨-, rfl, rfl⟩ := does.unique does'
    exact rewritten

/-- Whatever passes have been over the targets, another one succeeds. It leaves the files as the only pass
would that is run on the original ones, it leaves what those held backed up, and the store can be opened
again. -/
theorem runPass_versions (pristine : Pristine root targets modules start)
    (outside : ∀ target ∈ targets, ¬ start.Holds target.files (start.placeOf root ++ ["index.json"]))
    (first : Does (runPass fingerprint₀ targets) ⟨root, .empty, 0⟩ start outcomes store₁ disk₁)
    (rewrites : Rewrites root targets start versions store disk)
    (fits : ∀ version ∈ versions, ∀ module ∈ modules, ∀ next last done,
      module.instrumented (fieldTypeIn? modules) next = .ok (done, last) → (done.stamp version).wrapped.Fits)
    (fingerprint : String) :
    ∃ outcomes store' disk', Does (runPass fingerprint targets) store disk outcomes store' disk' ∧
      (∃ outcomes store'' disk'', Does (runPass fingerprint targets) ⟨root, .empty, 0⟩ start outcomes store'' disk'' ∧
        ∀ target ∈ targets, disk'.read target.files.binary = disk''.read target.files.binary ∧
          disk'.read target.files.symbols = disk''.read target.files.symbols) ∧
      (∀ target ∈ targets, ∃ bytes bytes', start.Contains target.files bytes bytes' ∧
        store'.Secures disk' target.name bytes bytes') ∧
      disk'.Opens root { store' with writes := 0 } := by
  obtain ⟨origins, rfl, rfl, fresh, stands, numbered⟩ := pristine.exists_origins first
  have begins : Begins origins root ⟨root, .empty, 0⟩ start := fun fingerprint => by
    obtain ⟨outcomes, disk', rewritten⟩ := pristine.rewrites fresh stands numbered outside first fingerprint
    exact ⟨outcomes, store₁, disk', rewritten⟩
  have fits : ∀ version ∈ versions, ∀ origin ∈ origins, (origin.done.stamp version).wrapped.Fits :=
      fun version listed origin member => by
    obtain ⟨next, last, instrumented⟩ := numbered.instrumented origin member
    exact fits version listed origin.module (List.mem_map_of_mem member) next last origin.done instrumented
  have after := rewrites.after pristine.opens begins fresh numbered fits
  obtain ⟨outcomes, store', disk', does, same, rewritten⟩ := after.pass begins fresh numbered fits fingerprint
  obtain ⟨outcomes', store'', disk'', once, -, rewritten'⟩ := begins fingerprint
  refine ⟨outcomes, store', disk', does, ⟨outcomes', store'', disk'', once, ?_⟩, ?_, ?_⟩
  · refine List.forall_mem_map.2 fun origin member => ?_
    have bears := rewritten.stamped origin member
    have bears' := rewritten'.stamped origin member
    exact ⟨bears.binary.trans bears'.binary.symm, bears.symbols.trans bears'.symbols.symm⟩
  · exact List.forall_mem_map.2 fun origin member => ⟨_, _, stands origin member, rewritten.secured origin member⟩
  · subst same
    exact rewritten.synced

/-- The backup of the last module, if it is its first one, leaves the index on the disk, whatever the file
held before. -/
theorem InstrumentsAll.indexed {fields : FieldTypes} {next : UInt32} {loaded : LoadedTarget}
    (ahead : List LoadedTarget)
    (instruments : InstrumentsAll fingerprint fields (ahead ++ [loaded]) next store disk outcomes store' disk')
    (changed : loaded.current = false) (names : ∀ each ∈ ahead, loaded.target.name ≠ each.target.name)
    (new : store.entryOf? loaded.target.name = none)
    (outside : ¬ disk.Holds loaded.target.files (disk.placeOf store.root ++ ["index.json"])) :
    disk'.read (SnapshotStore.indexPath store.root) = .ok (textBytes store'.index.text) := by
  induction ahead generalizing next store disk outcomes with
  | nil =>
    cases instruments with
    | cons last rest =>
      cases rest
      cases last with
      | current current =>
        rw [changed] at current
        cases current
      | @other entry _ _ _ _ _ _ backs _ stores =>
        refine stores.changes.read ?_ (backs.indexed fun recorded => ?_)
        · rwa [backs.changes.holds, backs.changes.placeOf, placeOf_indexPath]
        · rw [new] at recorded
          cases recorded
  | cons each ahead ih =>
    obtain ⟨unlike, names⟩ := List.forall_mem_cons.1 names
    cases instruments with
    | @cons _ _ _ _ _ _ _ store₁ _ _ _ _ first later =>
      have kept : store₁.entryOf? loaded.target.name = store.entryOf? loaded.target.name := by
        cases first with
        | current _ => rfl
        | other _ backs _ _ => exact backs.other unlike
      rw [← first.root]
      refine ih later names (kept.trans new) ?_
      rwa [first.changes.holds, first.changes.placeOf, first.root]

/-- Contents with different digests are never confused by the store. -/
theorem Disk.injOn_heldBy {contents : List Bytes} (different : (contents.map objectId).Nodup)
    (held : ∀ target ∈ targets, ∃ bytes ∈ contents, ∃ bytes' ∈ contents, disk.Contains target.files bytes bytes') :
    Set.InjOn objectId (disk.heldBy targets) := by
  have listed : ∀ bytes ∈ disk.heldBy targets, bytes ∈ contents := by
    rintro bytes ⟨target, member, found⟩
    obtain ⟨_, binary, _, symbols, contains⟩ := held target member
    rcases found with found | found
    · rwa [Except.ok.inj (found.symm.trans contains.binary)]
    · rwa [Except.ok.inj (found.symm.trans contains.symbols)]
  exact fun bytes member bytes' member' => List.inj_on_of_nodup_map different (listed bytes member)
    (listed bytes' member')

/-! Two modules, one with symbols that may be in the index of the store, and a second version of the rewriter. -/

/-- Symbols that count as an empty index as well. -/
def sharedText : String :=
  "\x7b\"modules\":\x7b\x7d,\"module\":\"B\",\"methods\":[[\"C::m\",[[\"B\",1,1,1,2],null,null]]],\"sites\":[]\x7d"

def freshTargets (symbols : Path) : List PassTarget := [⟨"B", ⟨⟨"B.ivm"⟩, symbols⟩⟩, plainTarget]

/-- Where the symbols of the one module are, in its own file and in the index. -/
def freshSymbols : List (Path × String) :=
  [(⟨"B.isym"⟩, readSymbols "B"), (SnapshotStore.indexPath ⟨"bk"⟩, sharedText)]

def freshDisk : Disk where
  nodes := .ofList [(["A.ivm"], .file (readModule "A").encode), (["A.isym"], .file (textBytes (readSymbols "A"))),
    (["B.ivm"], .file (readModule "B").encode), (["B.isym"], .file (textBytes (readSymbols "B"))),
    (["bk"], .folder), (["bk", "index.json"], .file (textBytes sharedText))]
  workingFolder := []

def freshContents : List Bytes :=
  [(readModule "B").encode, textBytes (readSymbols "B"), textBytes sharedText, (readModule "A").encode,
    textBytes (readSymbols "A")]

theorem freshContents_different : (freshContents.map objectId).Nodup := by decide +kernel

theorem sharedText_index : SnapshotIndex.ofText? sharedText = some .empty := by decide +kernel

theorem freshSymbols_parsed : ∀ entry ∈ freshSymbols, Symbols.ofText? entry.2 = some (readModule "B").symbols := by
  decide +kernel

theorem freshDisk_reads : ∀ entry ∈ freshSymbols, freshDisk.read entry.1 = .ok (textBytes entry.2) :=
  List.forall_mem_cons.2 ⟨by with_unfolding_all rfl, List.forall_mem_singleton.2 (by with_unfolding_all rfl)⟩

theorem freshDisk_binary : freshDisk.read ⟨"B.ivm"⟩ = .ok (readModule "B").encode := by with_unfolding_all rfl

theorem freshDisk_plain : freshDisk.Reads plainTarget := ⟨by with_unfolding_all rfl, by with_unfolding_all rfl⟩

theorem freshDisk_places : freshDisk.placeOf ⟨"bk"⟩ = ["bk"] ∧
    freshDisk.placeOf plainTarget.files.binary = ["A.ivm"] ∧
    freshDisk.placeOf plainTarget.files.symbols = ["A.isym"] ∧
    freshDisk.placeOf ⟨"B.ivm"⟩ = ["B.ivm"] ∧ freshDisk.placeOf ⟨"B.isym"⟩ = ["B.isym"] := by
  with_unfolding_all decide

variable {symbols : Path} {text : String}

theorem freshDisk_loads (listed : (symbols, text) ∈ freshSymbols) :
    List.Forall₂ (fun target module => freshDisk.Loads target.files module) (freshTargets symbols)
      [readModule "B", readModule "A"] := by
  have decoded : Module.decode (readModule "B").encode = .ok (readModule "B").bare :=
    Module.decode_of_fits (by decide)
  refine .cons ?_ (.cons (freshDisk_plain.loads (by decide)) .nil)
  exact .located freshDisk_binary decoded (freshDisk_reads _ listed) (freshSymbols_parsed _ listed)
    (Module.symbols_applyTo_bare (List.nodup_singleton _))

/-- Two unstamped targets that load beside an empty store. -/
theorem freshDisk_pristine (listed : (symbols, text) ∈ freshSymbols) :
    Pristine ⟨"bk"⟩ (freshTargets symbols) [readModule "B", readModule "A"] freshDisk where
  names := by simp [freshTargets, plainTarget]
  binaries := by simp [freshTargets, freshDisk_places]
  symbols := by
    have different : ∀ entry ∈ freshSymbols, freshDisk.placeOf entry.1 ≠ ["A.isym"] := by with_unfolding_all decide
    simpa [freshTargets, freshDisk_places] using different _ listed
  opens := Disk.opens_iff.2 ⟨.empty, rfl, Or.inl ⟨sharedText, by with_unfolding_all rfl, sharedText_index⟩⟩
  vacant := by
    rw [freshDisk_places.1]
    exact fun place => Disk.file?_eq_none_of_entries (by decide)
  loads := freshDisk_loads listed
  unstamped := List.forall_mem_cons.2 ⟨rfl, List.forall_mem_singleton.2 rfl⟩
  distinct := List.forall_mem_cons.2 ⟨List.nodup_singleton _, List.forall_mem_singleton.2 (List.nodup_singleton _)⟩
  digests := by
    have among : ∀ entry ∈ freshSymbols, textBytes entry.2 ∈ freshContents := by
      simp [freshSymbols, freshContents]
    refine Disk.injOn_heldBy freshContents_different (List.forall_mem_cons.2 ⟨?_, List.forall_mem_singleton.2 ?_⟩)
    · exact ⟨_, List.mem_cons_self, _, among _ listed, freshDisk_binary, freshDisk_reads _ listed⟩
    · exact ⟨_, by simp [freshContents, plainTarget], _, by simp [freshContents, plainTarget], freshDisk_plain⟩

theorem freshDisk_pass (listed : (symbols, text) ∈ freshSymbols) : ∃ outcomes store' disk',
    Does (runPass "f1" (freshTargets symbols)) pairStore freshDisk outcomes store' disk' := by
  have ended : ∀ entry ∈ freshSymbols,
      (Work.ending (runPass "f1" (freshTargets entry.1)) pairStore freshDisk).1.1.toOption.isSome := by
    decide +kernel
  obtain ⟨outcomes, done⟩ := Option.isSome_iff_exists.1 (ended _ listed)
  exact ⟨outcomes, _, _, does_of_toOption done⟩

/-- Two instrumented targets taken to a second version, with burned-in ids and location lists that grow. -/
theorem runPass_versions_pair : ∃ outcomes store₁ disk₁,
    Does (runPass "f1" (freshTargets ⟨"B.isym"⟩)) pairStore freshDisk outcomes store₁ disk₁ ∧
    ∃ outcomes store' disk', Does (runPass "f2" (freshTargets ⟨"B.isym"⟩)) store₁ disk₁ outcomes store' disk' ∧
      (∃ outcomes store'' disk'',
        Does (runPass "f2" (freshTargets ⟨"B.isym"⟩)) pairStore freshDisk outcomes store'' disk'' ∧
        ∀ target ∈ freshTargets ⟨"B.isym"⟩, disk'.read target.files.binary = disk''.read target.files.binary ∧
          disk'.read target.files.symbols = disk''.read target.files.symbols) ∧
      (∀ target ∈ freshTargets ⟨"B.isym"⟩, ∃ bytes bytes', freshDisk.Contains target.files bytes bytes' ∧
        store'.Secures disk' target.name bytes bytes') ∧
      disk'.Opens ⟨"bk"⟩ { store' with writes := 0 } := by
  have listed : (⟨"B.isym"⟩, readSymbols "B") ∈ freshSymbols := List.mem_cons_self
  obtain ⟨outcomes, store₁, disk₁, first⟩ := freshDisk_pass listed
  have fits : ∀ version ∈ ["f1"], ∀ module ∈ [readModule "B", readModule "A"], ∀ next last done,
      module.instrumented (fieldTypeIn? [readModule "B", readModule "A"]) next = .ok (done, last) →
        (done.stamp version).wrapped.Fits := by
    have each : ∀ name ∈ ["A", "B"], ∀ next last done,
        (readModule name).instrumented (fieldTypeIn? [readModule "B", readModule "A"]) next = .ok (done, last) →
          (done.stamp "f1").wrapped.Fits := by
      intro name named next last done instrumented
      rw [readModule_instrumented] at instrumented
      cases instrumented
      exact readDone_fits named (by decide) next
    exact List.forall_mem_singleton.2
      (List.forall_mem_cons.2 ⟨each "B" (by decide), List.forall_mem_singleton.2 (each "A" (by decide))⟩)
  have outside : ∀ target ∈ freshTargets ⟨"B.isym"⟩,
      ¬ freshDisk.Holds target.files (freshDisk.placeOf ⟨"bk"⟩ ++ ["index.json"]) := by
    obtain ⟨root, binary, symbols, binary', symbols'⟩ := freshDisk_places
    simp [freshTargets, Disk.Holds, root, binary, symbols, binary', symbols']
  have pristine := freshDisk_pristine listed
  refine ⟨outcomes, store₁, disk₁, first, ?_⟩
  exact runPass_versions pristine outside first (.pass (.opened pristine.opens) first) fits "f2"

/-- A text may be both an empty index and the symbols of a module. Where it is in the file of the index, the
next backup takes their place, and the module cannot be loaded by another pass. -/
theorem runPass_versions_shared :
    Pristine ⟨"bk"⟩ (freshTargets (SnapshotStore.indexPath ⟨"bk"⟩)) [readModule "B", readModule "A"] freshDisk ∧
    ∃ outcomes store' disk',
      Does (runPass "f1" (freshTargets (SnapshotStore.indexPath ⟨"bk"⟩))) pairStore freshDisk outcomes store' disk' ∧
      disk'.Opens ⟨"bk"⟩ { store' with writes := 0 } ∧ ∀ store outcomes store'' disk'',
        ¬ Does (runPass "f2" (freshTargets (SnapshotStore.indexPath ⟨"bk"⟩))) store disk' outcomes
        store'' disk'' := by
  have listed : (SnapshotStore.indexPath ⟨"bk"⟩, sharedText) ∈ freshSymbols :=
    List.mem_cons_of_mem _ List.mem_cons_self
  obtain ⟨outcomes, store', disk', does⟩ := freshDisk_pass listed
  have index : store'.root = ⟨"bk"⟩ ∧ disk'.read (SnapshotStore.indexPath ⟨"bk"⟩) = .ok
      (textBytes store'.index.text) := by
    obtain ⟨_, _, starts, -, instruments⟩ := does_runPass.1 does
    have fresh : StartsAll "f1" pairStore (freshTargets (SnapshotStore.indexPath ⟨"bk"⟩)) freshDisk
        [⟨⟨"B", ⟨⟨"B.ivm"⟩, SnapshotStore.indexPath ⟨"bk"⟩⟩⟩, readModule "B", false, false⟩,
          ⟨plainTarget, readModule "A", false, false⟩] freshDisk := by
      obtain _ | ⟨first, _ | ⟨second, _⟩⟩ := freshDisk_loads listed
      exact .cons (.unstamped first rfl) (.cons (.unstamped second rfl) .nil)
    obtain ⟨rfl, -, rfl⟩ := (does_passLoads.2 ⟨fresh, rfl⟩).unique (does_passLoads.2 ⟨starts, rfl⟩)
    have outside : ¬ freshDisk.Holds plainTarget.files (freshDisk.placeOf pairStore.root ++ ["index.json"]) := by
      rw [Disk.Holds, freshDisk_places.2.1, freshDisk_places.2.2.1, pairStore, freshDisk_places.1]
      decide
    exact ⟨instruments.root, instruments.indexed [_] rfl (by decide) rfl outside⟩
  refine ⟨freshDisk_pristine listed, outcomes, store', disk', does, ?_, fun store outcomes store'' disk'' => ?_⟩
  · exact Disk.opens_iff.2 ⟨store'.index, by rw [← index.1], Or.inl ⟨_, index.2, SnapshotIndex.ofText?_text _⟩⟩
  · exact not_does_runPass_of_malformed index.2 (Symbols.ofText?_index _)

end Faultline
