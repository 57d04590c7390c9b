import Faultline.Proofs.Code.Survey
import Faultline.Proofs.Project.Placement
import Faultline.Proofs.Site.Records
import Faultline.Proofs.Storage.Backups

namespace Faultline

variable {fingerprint : String} {fields : FieldTypes} {next last : UInt32} {store store' : SnapshotStore}
  {disk between disk' : Disk} {targets : List PassTarget} {loaded : LoadedTarget} {all : List LoadedTarget}
  {outcomes : List PassOutcome} {files : ModuleFiles} {module : Module}

/-! The numbers of the sites in symbol files. -/

/-- The numbers of the sites in a module's symbol file. There are none in a file that is no text of symbols. -/
def Disk.siteIds (disk : Disk) (files : ModuleFiles) : List UInt32 :=
  match disk.read files.symbols with
  | .error _ => []
  | .ok bytes => ((decodeUtf8 bytes).toOption.bind Symbols.ofText?).elim [] (·.sites.map (·.id))

theorem Symbols.sites_applyTo {symbols : Symbols} {bare : Module}
    (applied : symbols.applyTo bare = (module, .ok ())) :
    module.sites = symbols.sites := by
  unfold applyTo at applied
  split at applied
  · cases applied
  · split at applied <;> cases applied
    rfl

theorem Symbols.metadata_applyTo {symbols : Symbols} {bare : Module}
    (applied : symbols.applyTo bare = (module, .ok ())) :
    module.metadata = bare.metadata := by
  unfold applyTo at applied
  split at applied
  · cases applied
  · split at applied <;> cases applied
    rfl

theorem Module.sites_of_decode {bytes : Bytes} (decoded : Module.decode bytes = .ok module) : module.sites = [] := by
  obtain ⟨rest, after, -, read⟩ := decode_eq_ok.1 decoded
  obtain ⟨-, bare, -⟩ := Reader.module_eq_ok read
  rw [← bare]
  rfl

namespace Disk

theorem siteIds_of_read {text : String} (found : disk.read files.symbols = .ok (textBytes text)) :
    disk.siteIds files = (Symbols.ofText? text).elim [] (·.sites.map (·.id)) := by
  simp only [siteIds, found, decodeUtf8_textBytes, Except.toOption, Option.bind_some]

theorem siteIds_of_not_isFile (absent : disk.isFile files.symbols = false) : disk.siteIds files = [] := by
  unfold siteIds
  split
  · rfl
  · rename_i bytes found
    rw [isFile_iff.2 ⟨bytes, found⟩] at absent
    cases absent

/-- The ids of a target are read off its symbol file alone. -/
theorem siteIds_congr (same : ∀ bytes, disk'.read files.symbols = .ok bytes ↔ disk.read files.symbols = .ok bytes) :
    disk'.siteIds files = disk.siteIds files := by
  cases found : disk.read files.symbols with
  | ok bytes => simp only [siteIds, found, (same bytes).2 found]
  | error fault =>
    have absent (d : Disk) (none : ∀ bytes, d.read files.symbols ≠ .ok bytes) : d.isFile files.symbols = false := by
      rw [← Bool.not_eq_true, isFile_iff]
      exact not_exists.2 none
    have none : ∀ bytes, disk.read files.symbols ≠ .ok bytes := fun bytes => by
      rw [found]; exact fun same => by cases same
    rw [siteIds_of_not_isFile (absent disk none),
      siteIds_of_not_isFile (absent disk' fun bytes => mt (same bytes).1 (none bytes))]

theorem Loads.siteIds (loads : disk.Loads files module) : disk.siteIds files = module.sites.map (·.id) := by
  cases loads with
  | bare _ decoded absent => rw [siteIds_of_not_isFile absent, Module.sites_of_decode decoded, List.map_nil]
  | located _ _ present parsed applied =>
    rw [siteIds_of_read present, parsed, Option.elim_some, Symbols.sites_applyTo applied]

theorem Bears.siteIds (bears : disk.Bears files module) : disk.siteIds files = module.sites.map (·.id) := by
  rw [siteIds_of_read bears.symbols, Symbols.ofText?_text, Option.elim_some]
  rfl

end Disk

/-! The first number free. -/

instance lawfulOrderMaxUInt32 : Std.LawfulOrderMax UInt32 := .of_max_le_iff
  (fun a b c => by
    change (if a ≤ b then b else a) ≤ c ↔ _
    simp only [UInt32.le_iff_toNat_le]
    split <;> omega)
  fun a b => by
    change (if a ≤ b then b else a) = a ∨ (if a ≤ b then b else a) = b
    split <;> simp

/-- The number after the greatest of these. -/
def firstFree (ids : List UInt32) : Nat := ids.max?.elim 0 (·.toNat + 1)

theorem lt_firstFree {ids : List UInt32} {id : UInt32} (member : id ∈ ids) : id.toNat < firstFree ids := by
  obtain ⟨greatest, found⟩ := Option.isSome_iff_exists.1 (List.isSome_max?_of_mem member)
  have above := (List.max?_eq_some_iff.1 found).2 id member
  rw [firstFree, found, Option.elim_some]
  exact Nat.lt_succ_of_le (UInt32.le_iff_toNat_le.1 above)

theorem siteIdAfter_eq (ids : List UInt32) : siteIdAfter ids.max? = .ofNat (firstFree ids) := by
  unfold siteIdAfter firstFree
  cases ids.max? with
  | none => rfl
  | some greatest => simp [UInt32.ofNat_add]

/-- The largest of the largest ids of each target is the largest id of all. -/
theorem max?_filterMap {α : Type} (ids : α → List UInt32) (items : List α) :
    (items.filterMap fun item => (ids item).max?).max? = (items.flatMap ids).max? := by
  cases whole : (items.flatMap ids).max? with
  | none =>
    rw [List.max?_eq_none_iff, List.flatMap_eq_nil_iff] at whole
    rw [List.max?_eq_none_iff, List.filterMap_eq_nil_iff]
    exact fun item member => List.max?_eq_none_iff.2 (whole item member)
  | some greatest =>
    obtain ⟨member, above⟩ := List.max?_eq_some_iff.1 whole
    obtain ⟨item, listed, here⟩ := List.mem_flatMap.1 member
    have first : (ids item).max? = some greatest :=
      List.max?_eq_some_iff.2 ⟨here, fun id other => above id (List.mem_flatMap.2 ⟨item, listed, other⟩)⟩
    refine List.max?_eq_some_iff.2 ⟨List.mem_filterMap.2 ⟨item, listed, first⟩, fun id found => ?_⟩
    obtain ⟨other, listed', found⟩ := List.mem_filterMap.1 found
    exact above id (List.mem_flatMap.2 ⟨other, listed', (List.max?_eq_some_iff.1 found).1⟩)

theorem LoadedTarget.usedSiteId?_eq (all : List LoadedTarget) :
    usedSiteId? all = ((all.filter (·.current)).flatMap fun each => each.module.sites.map (·.id)).max? :=
  max?_filterMap _ _

/-! The numbers that a pass gives out. -/

def PassStatus.newSites : PassStatus → Nat
  | .upToDate => 0
  | .instrumented sites _ => sites

/-- How many sites a pass finds in the modules that it instruments. -/
def newSites (outcomes : List PassOutcome) : Nat := (outcomes.map (·.status.newSites)).sum

theorem newSites_cons (outcome : PassOutcome) :
    newSites (outcome :: outcomes) = outcome.status.newSites + newSites outcomes := by
  rw [newSites, List.map_cons, List.sum_cons, newSites]

/-- The sites of all modules that are instrumented are numbered through. -/
theorem InstrumentsAll.siteIds
    (instruments : InstrumentsAll fingerprint fields all next store disk outcomes store' disk')
    (placed : disk.Placed store.root (all.map (·.target))) :
    ((all.filter (!·.current)).flatMap fun each => disk'.siteIds each.target.files) =
      (List.range (newSites outcomes)).map fun position => next + .ofNat position := by
  induction instruments with
  | nil => rfl
  | @cons loaded rest next last status outcomes store store₁ store' disk disk₁ disk' first later ih =>
    have around := placed.changes first.changes
    rw [← first.root] at around
    have numbered := ih around.tail
    cases current : loaded.current with
    | true =>
      cases first with
      | other other _ _ _ =>
        rw [current] at other
        cases other
      | current _ =>
        rw [List.filter_cons_of_neg (by rw [current]; decide), numbered, newSites_cons, PassStatus.newSites,
          Nat.zero_add]
    | false =>
      obtain ⟨done, instrumented, bears⟩ := first.bears current (placed.own _ List.mem_cons_self)
      have sites : status.newSites = done.sites.length := by
        cases first with
        | current known =>
          rw [current] at known
          cases known
        | other _ _ instrumented' _ =>
          cases instrumented.symm.trans instrumented'
          rfl
      obtain ⟨⟨-, ids, -⟩, onward⟩ := Module.instrumented_numbered instrumented
      have stays : disk'.Bears loaded.target.files (done.stamp fingerprint) := by
        refine bears.spared (later.changes_stored.spares fun place held => ?_)
        rintro (stored | ⟨each, member, -, held'⟩)
        · exact around.outside _ List.mem_cons_self place held stored
        · exact around.head_apart held _ (List.mem_map_of_mem member) held'
      rw [List.filter_cons_of_pos (by rw [current]; decide), List.flatMap_cons, numbered, stays.siteIds,
        newSites_cons, sites, List.range_add, List.map_append, List.map_map]
      refine congrArg₂ _ ids (List.map_congr_left fun position _ => ?_)
      rw [onward, Function.comp_apply, UInt32.ofNat_add, UInt32.add_assoc]

theorem toNat_range {first count : Nat} (range : first + count ≤ 2 ^ 32) :
    ((List.range count).map fun position => UInt32.ofNat first + .ofNat position).map UInt32.toNat =
      List.range' first count := by
  rw [List.map_map, List.range'_eq_map_range]
  refine List.map_congr_left fun position listed => ?_
  have inside := List.mem_range.1 listed
  rw [Function.comp_apply, ← UInt32.ofNat_add, UInt32.toNat_ofNat', Nat.mod_eq_of_lt (by omega)]

/-- The numbers of the modules that are left alone, as they were before. -/
def usedIds (all : List LoadedTarget) (disk : Disk) : List UInt32 :=
  (all.filter (·.current)).flatMap fun each => disk.siteIds each.target.files

/-- The numbers of the modules that are instrumented, as they are now. -/
def newIds (all : List LoadedTarget) (disk : Disk) : List UInt32 :=
  (all.filter (!·.current)).flatMap fun each => disk.siteIds each.target.files

theorem usedIds_append_newIds (all : List LoadedTarget) (disk : Disk) :
    (usedIds all disk ++ newIds all disk).Perm (all.flatMap fun each => disk.siteIds each.target.files) := by
  rw [usedIds, newIds, ← List.flatMap_append]
  exact (List.filter_append_perm _ all).flatMap_right _

section Given

variable {start : Disk}

theorem usedIds_congr
    (kept : ∀ each ∈ all, each.current = true → disk'.siteIds each.target.files = start.siteIds each.target.files) :
    usedIds all disk' = usedIds all start :=
  List.flatMap_congr fun each member => kept each (List.mem_filter.1 member).1 (List.mem_filter.1 member).2

theorem LoadedTarget.usedSiteId?_of_siteIds
    (loaded : ∀ each ∈ all, each.current = true → each.module.sites.map (·.id) = start.siteIds each.target.files) :
    usedSiteId? all = (usedIds all start).max? := by
  rw [usedSiteId?_eq, usedIds]
  refine congrArg List.max? (List.flatMap_congr fun each member => ?_)
  exact loaded each (List.mem_filter.1 member).1 (List.mem_filter.1 member).2

/-- The new numbers are the ones after the greatest that was in use. -/
theorem InstrumentsAll.newIds_eq
    (instruments : InstrumentsAll fingerprint fields all (siteIdAfter (LoadedTarget.usedSiteId? all)) store
      disk outcomes store' disk')
    (placed : disk.Placed store.root (all.map (·.target)))
    (loaded : ∀ each ∈ all, each.current = true → each.module.sites.map (·.id) = start.siteIds each.target.files)
    (range : firstFree (usedIds all start) + newSites outcomes ≤ 2 ^ 32) :
    (newIds all disk').map UInt32.toNat = List.range' (firstFree (usedIds all start)) (newSites outcomes) := by
  rw [newIds, instruments.siteIds placed, LoadedTarget.usedSiteId?_of_siteIds loaded, siteIdAfter_eq,
    toNat_range range]

/-- If the numbers in use were distinct, they and the new ones are. -/
theorem InstrumentsAll.siteIds_nodup
    (instruments : InstrumentsAll fingerprint fields all (siteIdAfter (LoadedTarget.usedSiteId? all)) store
      disk outcomes store' disk')
    (placed : disk.Placed store.root (all.map (·.target)))
    (loaded : ∀ each ∈ all, each.current = true → each.module.sites.map (·.id) = start.siteIds each.target.files)
    (kept : ∀ each ∈ all, each.current = true → disk'.siteIds each.target.files = start.siteIds each.target.files)
    (range : firstFree (usedIds all start) + newSites outcomes ≤ 2 ^ 32) (distinct : (usedIds all start).Nodup) :
    ((all.map (·.target)).flatMap fun target => disk'.siteIds target.files).Nodup := by
  have fresh := instruments.newIds_eq placed loaded range
  have parts : ((all.map (·.target)).flatMap fun target => disk'.siteIds target.files).Perm
      (usedIds all start ++ newIds all disk') := by
    rw [← usedIds_congr kept, List.flatMap_map]
    exact (usedIds_append_newIds all disk').symm
  refine parts.nodup_iff.2 (List.nodup_append.2 ⟨distinct, ?_, ?_⟩)
  · refine List.Nodup.of_map UInt32.toNat ?_
    rw [fresh]
    exact List.nodup_range'
  · rintro id used id' new rfl
    have here := List.mem_map_of_mem (f := UInt32.toNat) new
    rw [fresh, List.mem_range'_1] at here
    exact absurd (lt_firstFree used) (Nat.not_lt_of_le here.1)

end Given

/-! Modules that are left alone. -/

/-- However the disk changes around a module's files, the numbers in its symbol file stay. -/
def Disk.Steady (disk : Disk) (files : ModuleFiles) : Prop :=
  ∀ disk', disk.Spares files disk' → disk'.siteIds files = disk.siteIds files

theorem Disk.Sound.steady (sound : disk.Sound) (settled : disk.Settled files.symbols) : disk.Steady files :=
  fun _ spares => siteIds_congr fun _ => Changes.read_iff spares sound settled (not_not_intro (Or.inr rfl))

theorem Disk.steady_of_read {bytes : Bytes} (found : disk.read files.symbols = .ok bytes) : disk.Steady files := by
  intro disk' spares
  have stays := Changes.read spares (not_not_intro (Or.inr rfl)) found
  exact siteIds_congr fun _ => by rw [found, stays]

theorem StartsAll.siteIds {root : Path} (starts : StartsAll fingerprint store targets disk all disk')
    (placed : disk.Placed root targets)
    (steady : ∀ each ∈ all, each.current = true → disk.Steady each.target.files) :
    ∀ each ∈ all, each.current = true → each.module.sites.map (·.id) = disk.siteIds each.target.files := by
  intro each member current
  obtain ⟨-, found, loads, before, -⟩ := starts.current placed (fun _ _ => .refl _) each member current
  rw [← loads.siteIds, steady each member current found before]

/-- A pass stays out of the files of modules that are up to date. -/
theorem Does.runPass_spares (pass : Does (runPass fingerprint targets) store disk outcomes store' disk')
    (loads : Does (targets.mapM (·.load fingerprint)) store disk all store between)
    (placed : disk.Placed store.root targets) :
    ∀ each ∈ all, each.current = true → disk.Spares each.target.files disk' := by
  obtain ⟨all', between', starts, -, instruments⟩ := does_runPass.1 pass
  obtain ⟨rfl, -, rfl⟩ := loads.unique (does_passLoads.2 ⟨starts, rfl⟩)
  have around := placed.changes starts.changes
  rw [← starts.targets_eq] at around
  intro each member current
  obtain ⟨-, found, -, before, after⟩ := starts.current placed (fun _ _ => .refl _) each member current
  exact before.trans (after.trans (instruments.spares around each member current))

end Faultline
