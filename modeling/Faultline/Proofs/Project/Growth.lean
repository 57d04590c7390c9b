import Mathlib.Data.List.Flatten
import Faultline.Proofs.Project.SiteIds
import Faultline.Proofs.Project.Versions
import Faultline.Recording.Recorder

namespace Faultline

variable {root : Path} {fingerprint : String} {targets chosen covered : List PassTarget}
  {store store' : SnapshotStore} {start disk between disk' : Disk} {all : List LoadedTarget}
  {outcomes : List PassOutcome} {files : ModuleFiles} {module module' : Module}

/-- The store and the disk after passes for one fingerprint, each over some of the targets, with those of the
latest pass. Every pass is over the targets of the one before as well, and there are numbers enough for the
sites that it finds. The store may be opened anew at any time. -/
inductive Grows (root : Path) (fingerprint : String) (targets : List PassTarget) (start : Disk) :
    List PassTarget → SnapshotStore → Disk → Prop
  | opened {store : SnapshotStore} (opens : start.Opens root store) :
      Grows root fingerprint targets start [] store start
  | reopened {covered : List PassTarget} {store store' : SnapshotStore} {disk : Disk}
      (before : Grows root fingerprint targets start covered store disk) (opens : disk.Opens root store') :
      Grows root fingerprint targets start covered store' disk
  | pass {covered chosen : List PassTarget} {store store' : SnapshotStore} {disk between disk' : Disk}
      {all : List LoadedTarget}
      {outcomes : List PassOutcome} (before : Grows root fingerprint targets start covered store disk)
      (listed : chosen ⊆ targets) (once : chosen.Nodup) (grows : covered ⊆ chosen)
      (loads : Does (chosen.mapM (·.load fingerprint)) store disk all store between)
      (does : Does (runPass fingerprint chosen) store disk outcomes store' disk')
      (range : firstFree (usedIds all disk) + newSites outcomes ≤ 2 ^ 32) :
      Grows root fingerprint targets start chosen store' disk'

/-! Targets chosen from others. -/

theorem Disk.Placed.of_subset (placed : disk.Placed root targets) (listed : chosen ⊆ targets) (once : chosen.Nodup) :
    disk.Placed root chosen := by
  have : Std.Symm fun target other : PassTarget => disk.Apart target.files other.files := ⟨fun _ _ => Disk.Apart.symm⟩
  refine ⟨fun target member => placed.own target (listed member), ?_, fun target member =>
    placed.outside target (listed member)⟩
  exact once.imp_of_mem fun member member' different => placed.apart.forall (listed member) (listed member') different

theorem nodup_flatMap_chosen {α β : Type} {items chosen : List α} {values : α → List β}
    (distinct : (items.flatMap values).Nodup) (listed : chosen ⊆ items) (once : chosen.Nodup) :
    (chosen.flatMap values).Nodup := by
  obtain ⟨ordered, same, among⟩ := List.subperm_of_subset once listed
  exact (same.flatMap_right values).nodup_iff.1 ((among.flatMap values).nodup distinct)

/-- Where a pass writes. -/
theorem Does.runPass_changes (pass : Does (runPass fingerprint targets) store disk outcomes store' disk') :
    store'.root = store.root ∧
      Disk.Changes (fun place => disk.Stored store.root place ∨ ∃ target ∈ targets,
        disk.Holds target.files place) disk disk' := by
  obtain ⟨all, between, starts, -, instruments⟩ := does_runPass.1 pass
  refine ⟨instruments.root, (starts.changes.mono fun _ => Or.inr).trans (instruments.changes_stored.mono ?_)⟩
  rintro place (stored | ⟨each, member, -, held⟩)
  · rw [starts.changes.stored] at stored
    exact Or.inl stored
  · rw [starts.changes.holds] at held
    exact Or.inr ⟨each.target, starts.targets_eq ▸ List.mem_map_of_mem member, held⟩

/-- The stamp is in the binary. -/
theorem Disk.Loads.metadata_eq (loads : disk.Loads files module) (loads' : disk'.Loads files module')
    (spares : disk.Spares files disk') : module'.metadata = module.metadata := by
  have binary {disk : Disk} {module : Module} (loads : disk.Loads files module) :
      ∃ bytes bare, disk.read files.binary = .ok bytes ∧ Module.decode bytes = .ok bare ∧
      module.metadata = bare.metadata := by
    cases loads with
    | bare found decoded _ => exact ⟨_, _, found, decoded, rfl⟩
    | located found decoded _ _ applied => exact ⟨_, _, found, decoded, Symbols.metadata_applyTo applied⟩
  obtain ⟨bytes, bare, found, decoded, same⟩ := binary loads
  obtain ⟨bytes', bare', found', decoded', same'⟩ := binary loads'
  have stays := Changes.read spares (not_not_intro (Or.inl rfl)) found
  obtain rfl := Except.ok.inj (stays.symm.trans found')
  obtain rfl := Except.ok.inj (decoded.symm.trans decoded')
  rw [same, same']

/-! What passes have made of the targets so far. -/

/-- The targets of the latest pass have symbols with distinct numbers, and the files of the others are as they
were. -/
structure Grown (root : Path) (targets : List PassTarget) (start : Disk) (covered : List PassTarget)
    (store : SnapshotStore) (disk : Disk) : Prop where
  opened : store.root = root
  placed : disk.Placed root targets
  untouched : ∀ target ∈ targets, target ∉ covered → start.Spares target.files disk
  readable : ∀ target ∈ covered, disk.isFile target.files.symbols = true
  distinct : (covered.flatMap fun target => disk.siteIds target.files).Nodup

/-- A module that no pass has been over carries no stamp. -/
theorem Grown.covered_of_current (grown : Grown root targets start covered store disk)
    (unstamped : ∀ target ∈ targets, ∃ module, start.Loads target.files module ∧ module.metadata.get? stampKey = none)
    (starts : StartsAll fingerprint store chosen disk all between) (placed : disk.Placed root chosen)
    (listed : chosen ⊆ targets) :
    ∀ each ∈ all, each.current = true → each.target ∈ covered := by
  intro each member current
  obtain ⟨stamp, found, loads, before, -⟩ := starts.current placed (fun _ _ => .refl _) each member current
  by_contra other
  have among : each.target ∈ targets := listed (starts.targets_eq ▸ List.mem_map_of_mem member)
  obtain ⟨module, loaded, none⟩ := unstamped each.target among
  have same := loaded.metadata_eq loads ((grown.untouched _ among other).trans before)
  rw [Module.stampOf, same, none] at stamp
  cases stamp

/-- A pass over all that came before keeps the numbers distinct. -/
theorem Grown.pass (grown : Grown root targets start covered store disk)
    (unstamped : ∀ target ∈ targets, ∃ module, start.Loads target.files module ∧ module.metadata.get? stampKey = none)
    (listed : chosen ⊆ targets) (once : chosen.Nodup) (grows : covered ⊆ chosen)
    (loads : Does (chosen.mapM (·.load fingerprint)) store disk all store between)
    (pass : Does (runPass fingerprint chosen) store disk outcomes store' disk')
    (range : firstFree (usedIds all disk) + newSites outcomes ≤ 2 ^ 32) :
    Grown root targets start chosen store' disk' := by
  obtain rfl := grown.opened
  have starts := (does_passLoads.1 loads).1
  have placed := grown.placed.of_subset listed once
  have known := grown.covered_of_current unstamped starts placed listed
  have readable : ∀ each ∈ all, each.current = true → ∃ bytes, disk.read each.target.files.symbols = .ok bytes :=
    fun each member current => Disk.isFile_iff.1 (grown.readable _ (known each member current))
  have steady : ∀ each ∈ all, each.current = true → disk.Steady each.target.files := fun each member current => by
    obtain ⟨bytes, found⟩ := readable each member current
    exact Disk.steady_of_read found
  have through := numbersThrough placed loads steady pass range
  obtain ⟨same, changes⟩ := pass.runPass_changes
  have used : (usedIds all disk).Nodup := by
    have left : ((all.filter (·.current)).map (·.target)).Sublist chosen :=
      starts.targets_eq ▸ (List.filter_sublist (l := all)).map _
    have among : (all.filter (·.current)).map (·.target) ⊆ covered := fun target member => by
      obtain ⟨each, left, rfl⟩ := List.mem_map.1 member
      exact known each (List.mem_filter.1 left).1 (List.mem_filter.1 left).2
    have distinct := nodup_flatMap_chosen grown.distinct among (left.nodup once)
    rwa [List.flatMap_map] at distinct
  refine ⟨same, grown.placed.changes changes, fun target member other => ?_, ?_, ?_⟩
  · refine (grown.untouched target member fun earlier => other (grows earlier)).trans
      (changes.spares fun place held => ?_)
    rintro (stored | ⟨each, among, held'⟩)
    · exact grown.placed.outside target member place held stored
    · have : Std.Symm fun target other : PassTarget => disk.Apart target.files other.files :=
        ⟨fun _ _ => Disk.Apart.symm⟩
      have different : target ≠ each := fun equal => other (equal ▸ among)
      exact grown.placed.apart.forall member (listed among) different place held held'
  · rw [← starts.targets_eq]
    refine List.forall_mem_map.2 fun each member => ?_
    cases current : each.current with
    | false =>
      obtain ⟨_, _, -, -, bears⟩ := through.numbered each member current
      exact Disk.isFile_iff.2 ⟨_, bears.symbols⟩
    | true =>
      obtain ⟨bytes, found⟩ := readable each member current
      have spares := pass.runPass_spares loads placed each member current
      exact Disk.isFile_iff.2 ⟨bytes, Disk.Changes.read spares (not_not_intro (Or.inr rfl)) found⟩
  · have distinct := through.distinct used
    rw [← starts.targets_eq, List.flatMap_map]
    exact distinct

/-- A history keeps `Grown`: the ids on disk are distinct, and every target not yet covered has none. -/
theorem Grows.grown (grows : Grows root fingerprint targets start covered store disk)
    (placed : start.Placed root targets)
    (unstamped : ∀ target ∈ targets, ∃ module, start.Loads target.files module ∧
      module.metadata.get? stampKey = none) :
    Grown root targets start covered store disk := by
  induction grows with
  | opened opens =>
    obtain ⟨index, rfl, -⟩ := Disk.opens_iff.1 opens
    exact ⟨rfl, placed, fun _ _ _ => .refl _, fun _ member => (List.not_mem_nil member).elim, List.nodup_nil⟩
  | reopened before opens ih =>
    obtain ⟨index, rfl, -⟩ := Disk.opens_iff.1 opens
    exact ⟨rfl, ih.placed, ih.untouched, ih.readable, ih.distinct⟩
  | pass before listed once grows loads does range ih => exact ih.pass unstamped listed once grows loads does range

/-- Where every site has its own number, the table has every site. -/
theorem SiteTable.get?_ofModules {modules : List Module}
    (distinct : ((modules.flatMap (·.sites)).map (·.id)).Nodup) {site : Site}
    (member : site ∈ modules.flatMap (·.sites)) : (ofModules modules).get? site.id = some site := by
  refine Table.get?_ofList (List.mem_map_of_mem (f := fun site : Site => (site.id, site)) member)
    fun other listed => ?_
  obtain ⟨site', member', same⟩ := List.mem_map.1 listed
  obtain ⟨ids, equal⟩ := Prod.mk.inj same
  rw [← equal]
  exact List.inj_on_of_nodup_map distinct member' member ids

/-- Passes over more and more modules, none of which was stamped at first, never give two sites one number,
and the table of the modules has the record of every site. -/
theorem Grows.sites_distinct (grows : Grows root fingerprint targets start covered store disk)
    (placed : start.Placed root targets)
    (unstamped : ∀ target ∈ targets, ∃ module, start.Loads target.files module ∧
      module.metadata.get? stampKey = none) :
    (covered.flatMap fun target => disk.siteIds target.files).Nodup ∧
      ∀ modules, List.Forall₂ (fun target module => disk.Loads target.files module) covered modules →
        ∀ site ∈ modules.flatMap (·.sites), (SiteTable.ofModules modules).get? site.id = some site := by
  have distinct := (grows.grown placed unstamped).distinct
  refine ⟨distinct, fun modules loads site member => SiteTable.get?_ofModules ?_ member⟩
  have ids : (modules.flatMap (·.sites)).map (·.id) = covered.flatMap fun target => disk.siteIds target.files := by
    clear distinct member grows
    induction loads with
    | nil => rfl
    | cons first _ ih => rw [List.flatMap_cons, List.flatMap_cons, List.map_append, ih, first.siteIds]
  rwa [ids]

/-! Two modules with a load each, backed up already. -/

def secondTarget : PassTarget := ⟨"B", ⟨⟨"B.ivm"⟩, ⟨"B.isym"⟩⟩⟩

def backedStore : SnapshotStore where
  root := ⟨"bk"⟩
  index := .ofList [("A", ⟨"fda985d078c7c1c270d6b96f149f241793537f5722622883b43e2b0703a2af13",
      some "57dea22309ae3fb834e85e69470e4d825109481582ff60666b1a1dc1cdbabfb9"⟩),
    ("B", ⟨"6d09d4b942e536288b9f9404fa0dd0134bac8779870b1677e89becf51473a69e",
      some "93253d8ba4c7ae2c8fa3cd3b40fd36a28729fa06db46a3b4aa52bfa340f22826"⟩)]
  writes := 0

def backedDisk : Disk where
  nodes := .ofList [(["A.ivm"], .file (readModule "A").encode), (["A.isym"], .file (textBytes (readSymbols "A"))),
    (["B.ivm"], .file (readModule "B").encode), (["B.isym"], .file (textBytes (readSymbols "B"))),
    (["bk"], .folder), (["bk", "index.json"], .file (textBytes backedStore.index.text)), (["bk", "objects"], .folder),
    (["bk", "objects", "fda985d078c7c1c270d6b96f149f241793537f5722622883b43e2b0703a2af13"],
      .file (readModule "A").encode),
    (["bk", "objects", "57dea22309ae3fb834e85e69470e4d825109481582ff60666b1a1dc1cdbabfb9"],
      .file (textBytes (readSymbols "A"))),
    (["bk", "objects", "6d09d4b942e536288b9f9404fa0dd0134bac8779870b1677e89becf51473a69e"],
      .file (readModule "B").encode),
    (["bk", "objects", "93253d8ba4c7ae2c8fa3cd3b40fd36a28729fa06db46a3b4aa52bfa340f22826"],
      .file (textBytes (readSymbols "B")))]
  workingFolder := []

/-- The module of a target stands as no pass has been over it, and is backed up. -/
structure Readied (target : PassTarget) (store : SnapshotStore) (disk : Disk) : Prop where
  named : target.name ∈ ["A", "B"]
  own : disk.placeOf target.files.binary ≠ disk.placeOf target.files.symbols
  reads : disk.Reads target
  prepared : disk.Prepared target.files
  secures : store.Secures disk target.name (readModule target.name).encode (textBytes (readSymbols target.name))

theorem read_digests :
    objectId (readModule "A").encode = "fda985d078c7c1c270d6b96f149f241793537f5722622883b43e2b0703a2af13" ∧
    objectId (textBytes (readSymbols "A")) = "57dea22309ae3fb834e85e69470e4d825109481582ff60666b1a1dc1cdbabfb9" ∧
    objectId (readModule "B").encode = "6d09d4b942e536288b9f9404fa0dd0134bac8779870b1677e89becf51473a69e" ∧
    objectId (textBytes (readSymbols "B")) = "93253d8ba4c7ae2c8fa3cd3b40fd36a28729fa06db46a3b4aa52bfa340f22826" := by
  decide +kernel

theorem backedDisk_recorded : ∀ target ∈ [plainTarget, secondTarget], backedStore.entryOf? target.name =
    some ⟨objectId (readModule target.name).encode, some (objectId (textBytes (readSymbols target.name)))⟩ := by
  obtain ⟨binary, symbols, binary', symbols'⟩ := read_digests
  refine List.forall_mem_cons.2 ⟨?_, List.forall_mem_singleton.2 ?_⟩
  · rw [plainTarget, binary, symbols]
    rfl
  · rw [secondTarget, binary', symbols']
    rfl

/-- The store's files stand where they are looked for. -/
theorem backedDisk_nodes : backedDisk.node? ["bk"] = some .folder ∧
    backedDisk.node? ["bk", "objects"] = some .folder ∧
    backedDisk.node? ["bk", "index.json"] = some (.file (textBytes backedStore.index.text)) ∧
    ∀ target ∈ [plainTarget, secondTarget], ∀ record ∈ backedStore.entryOf? target.name,
      backedDisk.node? ["bk", "objects", record.binary] = some (.file (readModule target.name).encode) ∧
      ∀ id ∈ record.symbols,
      backedDisk.node? ["bk", "objects", id] = some (.file (textBytes (readSymbols target.name))) := by
  obtain ⟨entries, nodes, distinct, folder, objects, index, kept⟩ : ∃ entries, backedDisk.nodes = .ofList entries ∧
      (entries.map Prod.fst).Nodup ∧ (["bk"], .folder) ∈ entries ∧ (["bk", "objects"], .folder) ∈ entries ∧
      (["bk", "index.json"], .file (textBytes backedStore.index.text)) ∈ entries ∧
      ∀ target ∈ [plainTarget, secondTarget], ∀ record ∈ backedStore.entryOf? target.name,
        (["bk", "objects", record.binary], .file (readModule target.name).encode) ∈ entries ∧
        ∀ id ∈ record.symbols, (["bk", "objects", id], .file (textBytes (readSymbols target.name))) ∈ entries := by
    refine ⟨_, rfl, by simp, by simp, by simp, by simp, List.forall_mem_cons.2 ⟨?_,
      List.forall_mem_singleton.2 ?_⟩⟩ <;> rintro _ ⟨⟩ <;> refine ⟨?_, ?_⟩
    · simp [plainTarget]
    · rintro _ ⟨⟩
      simp [plainTarget]
    · simp [secondTarget]
    · rintro _ ⟨⟩
      simp [secondTarget]
  have stands {name : String} {below : List String} {node : Node} (listed : (name :: below, node) ∈ entries) :
      backedDisk.node? (name :: below) = some node := Disk.node?_of_listed nodes distinct listed
      (List.cons_ne_nil _ _)
  refine ⟨stands folder, stands objects, stands index, fun target member record recorded => ?_⟩
  obtain ⟨binary, symbols⟩ := kept target member record recorded
  exact ⟨stands binary, fun id named => stands (symbols id named)⟩

theorem backedDisk_root : backedDisk.placeOf backedStore.root = ["bk"] ∧
    backedDisk.Walks (backedDisk.start backedStore.root) backedStore.root.names :=
  Disk.walks_name rfl ⟨by decide, by decide, by decide⟩

/-- Both targets load, are unstamped and pass their checks. -/
theorem backedDisk_readied : ∀ target ∈ [plainTarget, secondTarget], Readied target backedStore backedDisk := by
  obtain ⟨folder, objects, -, kept⟩ := backedDisk_nodes
  have object {bytes : Bytes} (found : backedDisk.node? ["bk", "objects", objectId bytes] = some (.file bytes)) :
      backedDisk.Object backedStore (objectId bytes) bytes :=
    ⟨Disk.read_object backedDisk_root.1 (isName_objectId bytes) backedDisk_root.2 folder objects found, rfl⟩
  have facts : ∀ target ∈ [plainTarget, secondTarget], target.name ∈ ["A", "B"] ∧
      backedDisk.placeOf target.files.binary ≠ backedDisk.placeOf target.files.symbols ∧
      backedDisk.read target.files.binary = .ok (readModule target.name).encode ∧
      backedDisk.read target.files.symbols = .ok (textBytes (readSymbols target.name)) ∧
      (backedDisk.start target.files.binary.folder = [] ∧ target.files.binary.folder.steps = ["."]) ∧
      backedDisk.start target.files.symbols.folder = [] ∧ target.files.symbols.folder.steps = ["."] := by
        with_unfolding_all decide
  have ready {path : Path} (top : backedDisk.start path.folder = [] ∧ path.folder.steps = ["."]) :
      backedDisk.Ready path := by
    refine ⟨?_⟩
    rw [top.1, top.2]
    exact .cons rfl .nil
  intro target member
  obtain ⟨named, own, binary, symbols, above, above'⟩ := facts target member
  have recorded := backedDisk_recorded target member
  obtain ⟨object₁, object₂⟩ := kept target member _ recorded
  exact {
    named := named
    own := own
    reads := ⟨binary, symbols⟩
    prepared := ⟨ready above, ready above'⟩
    secures := ⟨recorded, object object₁, object (object₂ _ rfl)⟩ }

namespace Readied

variable {target : PassTarget}

theorem loads (readied : Readied target store disk) : disk.Loads target.files (readModule target.name) :=
  readied.reads.loads readied.named

/-- A target stays ready while nothing is written at its places or in the store. -/
theorem spared {touched : Place → Prop} (readied : Readied target store disk)
    (changes : Disk.Changes touched disk disk')
    (apart : ∀ place, disk.Holds target.files place → ¬ touched place)
    (outside : ∀ place, disk.Stored store.root place → ¬ touched place) :
    Readied target store disk' where
  named := readied.named
  own := by
    rw [changes.placeOf, changes.placeOf]
    exact readied.own
  reads := readied.reads.spared (changes.spares apart)
  prepared := readied.prepared.changes changes
  secures := readied.secures.changes changes outside

/-- A pass leaves the store as it is and writes the module with its site. -/
theorem instruments (readied : Readied target store disk) (restored : Bool) (fields : FieldTypes)
    (first : UInt32) : ∃ disk',
    (⟨target, readModule target.name, false, restored⟩ : LoadedTarget).Instruments "f1" fields first store disk
      (.instrumented (readDone target.name first).sites.length restored) (first + 1) store disk' ∧
    disk'.Bears target.files ((readDone target.name first).stamp "f1") ∧
    Disk.Changes (disk.Holds target.files) disk disk' := by
  obtain ⟨disk', stores⟩ := Disk.Stores.of_prepared readied.prepared readied.reads readied.own
    ((readDone target.name first).stamp "f1")
  have backs := readied.secures.backs readied.reads
  exact ⟨disk', .other rfl backs (readModule_instrumented target.name fields first) stores,
    stores.bears readied.own, stores.changes⟩

end Readied

/-- What is written for the module is up to date. -/
theorem Disk.Bears.readDone (target : PassTarget) {first : UInt32} (named : target.name ∈ ["A", "B"])
    (bears : disk.Bears target.files ((readDone target.name first).stamp "f1")) :
    disk.Loads target.files ((readDone target.name first).stamp "f1").wrapped :=
  bears.loads (readDone_fits named (by decide) first) (List.nodup_singleton _)

theorem backedDisk_placed : backedDisk.Placed backedStore.root [plainTarget, secondTarget] := by
  have places : backedDisk.placeOf backedStore.root = ["bk"] ∧
      backedDisk.placeOf plainTarget.files.binary = ["A.ivm"] ∧
      backedDisk.placeOf plainTarget.files.symbols = ["A.isym"] ∧
      backedDisk.placeOf secondTarget.files.binary = ["B.ivm"] ∧
      backedDisk.placeOf secondTarget.files.symbols = ["B.isym"] := by with_unfolding_all decide
  simp only [plainTarget, secondTarget] at places
  refine ⟨?_, ?_, ?_⟩ <;> simp [Disk.Apart, Disk.Holds, Disk.Stored, plainTarget, secondTarget, places]

theorem backedDisk_index : backedDisk.read (SnapshotStore.indexPath backedStore.root) = .ok
    (textBytes backedStore.index.text) :=
  Disk.read_join backedDisk_root.1 ⟨by decide, by decide, by decide⟩ backedDisk_root.2 backedDisk_nodes.1
    backedDisk_nodes.2.2.1

theorem backedDisk_opens : backedDisk.Opens backedStore.root backedStore :=
  Disk.opens_iff.2
    ⟨backedStore.index, rfl, Or.inl ⟨backedStore.index.text, backedDisk_index, SnapshotIndex.ofText?_text _⟩⟩

theorem backedDisk_unstamped : ∀ target ∈ [plainTarget, secondTarget], ∃ module,
    backedDisk.Loads target.files module ∧
    module.metadata.get? stampKey = none :=
  fun target member => ⟨_, (backedDisk_readied target member).loads, rfl⟩

theorem secondTarget_apart : ∀ place, backedDisk.Holds secondTarget.files place →
    ¬ backedDisk.Holds plainTarget.files place :=
  fun _ held held' => backedDisk_placed.head_apart held' secondTarget (List.mem_singleton_self _) held

/-- A pass over the first module alone, after which the second one stands as before. -/
theorem backedDisk_first : ∃ outcomes disk₁,
    Does (runPass "f1" [plainTarget]) backedStore backedDisk outcomes backedStore disk₁ ∧
    newSites outcomes = 1 ∧ disk₁.Bears plainTarget.files ((readDone "A" 0).stamp "f1") ∧
    Readied secondTarget backedStore disk₁ ∧
    Disk.Changes (backedDisk.Holds plainTarget.files) backedDisk disk₁ := by
  have plain := backedDisk_readied plainTarget (by decide)
  obtain ⟨disk₁, instruments, bears, changes⟩ := plain.instruments false (fieldTypeIn? [readModule "A"]) 0
  refine ⟨_, disk₁,
    does_runPass.2 ⟨_, _, .cons (.unstamped plain.loads rfl) .nil, ?_, .cons instruments .nil⟩, rfl,
    bears, ?_, changes⟩
  · exact List.forall_mem_singleton.2 (Or.inr ⟨rfl, Disk.isFile_iff.2 ⟨_, plain.reads.symbols⟩⟩)
  · refine (backedDisk_readied secondTarget (by decide)).spared changes secondTarget_apart fun place stored held => ?_
    exact backedDisk_placed.outside plainTarget List.mem_cons_self place held stored

/-- Two targets rewritten one after the other, the second in a call that lists both, get the ids 0 and 1. -/
theorem backedDisk_grows : ∃ store disk, Grows ⟨"bk"⟩ "f1" [plainTarget, secondTarget] backedDisk
    [plainTarget, secondTarget] store disk ∧
    ([plainTarget, secondTarget].flatMap fun target => disk.siteIds target.files) = [0, 1] := by
  obtain ⟨outcomes, disk₁, first, count, bears, second, changes⟩ := backedDisk_first
  have plain := backedDisk_readied plainTarget (by decide)
  have loads := does_passLoads.2 (⟨.cons (.unstamped plain.loads rfl) .nil, rfl⟩ :
    StartsAll "f1" backedStore [plainTarget] backedDisk [⟨plainTarget, readModule "A", false, false⟩] backedDisk ∧ _)
  have before : Grows ⟨"bk"⟩ "f1" [plainTarget, secondTarget] backedDisk [plainTarget] backedStore disk₁ :=
    .pass (.opened backedDisk_opens) (by decide) (List.nodup_singleton _) (List.nil_subset _) loads first
      (by rw [count]; decide)
  have current : disk₁.Loads plainTarget.files ((readDone "A" 0).stamp "f1").wrapped :=
    bears.readDone plainTarget (by decide)
  have starts : StartsAll "f1" backedStore [plainTarget, secondTarget] disk₁
      [⟨plainTarget, ((readDone "A" 0).stamp "f1").wrapped, true, false⟩,
        ⟨secondTarget, readModule "B", false, false⟩] disk₁ :=
    .cons (.current current rfl) (.cons (.unstamped second.loads rfl) .nil)
  obtain ⟨disk₂, instruments, bears', changes'⟩ := second.instruments false
    (fieldTypeIn? [((readDone "A" 0).stamp "f1").wrapped, readModule "B"]) 1
  have apart : ∀ place, disk₁.Holds plainTarget.files place → ¬ disk₁.Holds secondTarget.files place := by
    rw [changes.holds, changes.holds]
    exact fun place held held' => secondTarget_apart place held' held
  have stays : disk₂.Bears plainTarget.files ((readDone "A" 0).stamp "f1") := bears.spared (changes'.spares apart)
  refine ⟨backedStore, disk₂, .pass before (List.Subset.refl _) (by decide) (by decide)
    (does_passLoads.2 ⟨starts, rfl⟩)
    (does_runPass.2 ⟨_, _, starts, ?_, .cons (.current rfl) (.cons instruments .nil)⟩) ?_, ?_⟩
  · refine List.forall_mem_cons.2 ⟨Or.inl rfl, List.forall_mem_singleton.2 (Or.inr ⟨rfl, ?_⟩)⟩
    exact Disk.isFile_iff.2 ⟨_, second.reads.symbols⟩
  · simp only [usedIds, List.filter_cons_of_pos, List.filter_cons_of_neg, Bool.false_eq_true,
      not_false_eq_true, List.filter_nil, List.flatMap_cons, List.flatMap_nil, List.append_nil, bears.siteIds]
    decide
  · rw [List.flatMap_cons, List.flatMap_singleton, stays.siteIds, bears'.siteIds]
    rfl

theorem Grows.sites_distinct_backed : ∃ store disk, Grows ⟨"bk"⟩ "f1" [plainTarget, secondTarget] backedDisk
    [plainTarget, secondTarget] store disk ∧
    ([plainTarget, secondTarget].flatMap fun target => disk.siteIds target.files) = [0, 1] ∧
    ∀ modules, List.Forall₂ (fun target module => disk.Loads target.files module)
      [plainTarget, secondTarget] modules →
      ∀ site ∈ modules.flatMap (·.sites), (SiteTable.ofModules modules).get? site.id = some site := by
  obtain ⟨store, disk, grows, ids⟩ := backedDisk_grows
  exact ⟨store, disk, grows, ids, (Grows.sites_distinct grows backedDisk_placed backedDisk_unstamped).2⟩

/-- Passes over different modules number their sites alike. A pass over both then finds them up to date, and
the table of the two modules has one record for both sites. -/
theorem runPass_siteIds_collide : backedDisk.Placed backedStore.root [plainTarget, secondTarget] ∧
    backedDisk.Opens backedStore.root backedStore ∧
    (∀ target ∈ [plainTarget, secondTarget], ∃ module, backedDisk.Loads target.files module ∧
      module.metadata.get? stampKey = none) ∧
    ∃ outcomes₁ disk₁ outcomes₂ disk₂ outcomes₃ modules,
      Does (runPass "f1" [plainTarget]) backedStore backedDisk outcomes₁ backedStore disk₁ ∧
      Does (runPass "f1" [secondTarget]) backedStore disk₁ outcomes₂ backedStore disk₂ ∧
      Does (runPass "f1" [plainTarget, secondTarget]) backedStore disk₂ outcomes₃ backedStore disk₂ ∧
      disk₂.siteIds plainTarget.files = [0] ∧ disk₂.siteIds secondTarget.files = [0] ∧
      List.Forall₂ (fun target module => disk₂.Loads target.files module) [plainTarget, secondTarget] modules ∧
      ∃ site ∈ modules.flatMap (·.sites), (SiteTable.ofModules modules).get? site.id ≠ some site := by
  obtain ⟨outcomes₁, disk₁, first, -, bears, second, changes⟩ := backedDisk_first
  obtain ⟨disk₂, instruments, bears', changes'⟩ := second.instruments false (fieldTypeIn? [readModule "B"]) 0
  have apart : ∀ place, disk₁.Holds plainTarget.files place → ¬ disk₁.Holds secondTarget.files place := by
    rw [changes.holds, changes.holds]
    exact fun place held held' => secondTarget_apart place held' held
  have stays : disk₂.Bears plainTarget.files ((readDone "A" 0).stamp "f1") := bears.spared (changes'.spares apart)
  have plain : disk₂.Loads plainTarget.files ((readDone "A" 0).stamp "f1").wrapped :=
    stays.readDone plainTarget (by decide)
  have other : disk₂.Loads secondTarget.files ((readDone "B" 0).stamp "f1").wrapped := bears'.readDone _ (by decide)
  have current : ∀ target ∈ [plainTarget, secondTarget], disk₂.Current "f1" target :=
    List.forall_mem_cons.2 ⟨⟨_, plain, rfl⟩, List.forall_mem_singleton.2 ⟨_, other, rfl⟩⟩
  refine ⟨backedDisk_placed, backedDisk_opens, backedDisk_unstamped, outcomes₁, disk₁, _, disk₂, _, _, first,
    does_runPass.2 ⟨_, _, .cons (.unstamped second.loads rfl) .nil, ?_, .cons instruments .nil⟩,
    does_runPass_of_current current,
    stays.siteIds, bears'.siteIds, .cons plain (.cons other .nil), ⟨0, .int32, ⟨"A", 1, 1, 1, 2⟩, "C::m"⟩, ?_, ?_⟩
  · exact List.forall_mem_singleton.2 (Or.inr ⟨rfl, Disk.isFile_iff.2 ⟨_, second.reads.symbols⟩⟩)
  · exact List.mem_cons_self
  · with_unfolding_all decide

end Faultline
