import Faultline.Proofs.Project.Idempotence

namespace Faultline

variable {fingerprint : String} {fields : FieldTypes} {next last : UInt32} {store store' : SnapshotStore}
  {disk between disk' : Disk} {targets : List PassTarget} {loaded : LoadedTarget} {all : List LoadedTarget}
  {outcomes : List PassOutcome} {files : ModuleFiles} {module : Module}

/-- What a pass over loaded targets makes of the numbers of their sites, where it finds `count` new ones. -/
structure NumbersThrough (fingerprint : String) (all : List LoadedTarget) (disk : Disk) (count : Nat)
    (disk' : Disk) : Prop where
  kept : ∀ each ∈ all, each.current = true → disk'.siteIds each.target.files = disk.siteIds each.target.files
  contiguous : (newIds all disk').map UInt32.toNat = List.range' (firstFree (usedIds all disk)) count
  distinct : (usedIds all disk).Nodup → (all.flatMap fun each => disk'.siteIds each.target.files).Nodup
  numbered : ∀ each ∈ all, each.current = false → ∃ first done,
    each.module.Numbered (fieldTypeIn? (all.map (·.module))) first done ∧ (done.sites.map Site.operand).Nodup ∧
      disk'.Bears each.target.files (done.stamp fingerprint)

theorem Site.operand_injective {site site' : Site} (same : site.operand = site'.operand) : site.id = site'.id := by
  have words : site.id.toUInt64 = site'.id.toUInt64 := congrArg Int64.toUInt64 (Option.some.inj same)
  rw [← UInt32.toNat_inj, ← UInt32.toNat_toUInt64, words, UInt32.toNat_toUInt64]

/-- The current targets keep their ids, and the others get the free ones in the order of the list. -/
theorem numbersThrough (placed : disk.Placed store.root targets)
    (loads : Does (targets.mapM (·.load fingerprint)) store disk all store between)
    (steady : ∀ each ∈ all, each.current = true → disk.Steady each.target.files)
    (pass : Does (runPass fingerprint targets) store disk outcomes store' disk')
    (range : firstFree (usedIds all disk) + newSites outcomes ≤ 2 ^ 32) :
    NumbersThrough fingerprint all disk (newSites outcomes) disk' := by
  obtain ⟨all', between', starts, -, instruments⟩ := does_runPass.1 pass
  obtain ⟨rfl, -, rfl⟩ := loads.unique (does_passLoads.2 ⟨starts, rfl⟩)
  have around := placed.changes starts.changes
  rw [← starts.targets_eq] at around
  have loaded := starts.siteIds placed steady
  have kept : ∀ each ∈ all, each.current = true → disk'.siteIds each.target.files = disk.siteIds each.target.files :=
    fun each member current => steady each member current disk' (pass.runPass_spares loads placed each member current)
  have contiguous := instruments.newIds_eq around loaded range
  refine ⟨kept, contiguous, fun distinct => ?_, fun each member current => ?_⟩
  · have ids := instruments.siteIds_nodup around loaded kept range distinct
    rwa [List.flatMap_map] at ids
  · obtain ⟨first, last, done, instrumented, bears⟩ := instruments.bears around each member current
    refine ⟨first, done, (Module.instrumented_numbered instrumented).1, ?_, bears⟩
    have listed : each ∈ all.filter (!·.current) := List.mem_filter.2 ⟨member, by rw [current]; rfl⟩
    have fresh : (newIds all disk').Nodup :=
      List.Nodup.of_map UInt32.toNat (by rw [contiguous]; exact List.nodup_range')
    have ids := (List.nodup_flatMap.1 fresh).1 each listed
    rw [bears.siteIds] at ids
    rw [List.Nodup, List.pairwise_map] at ids ⊢
    exact ids.imp fun different same => different (Site.operand_injective same)

/-- Where a pass succeeds within the range of the numbers, the modules that are up to date keep the numbers of
their sites, and the others get the ones after the greatest of these, in the order of the targets and of their
texts. -/
theorem runPass_siteIds (sound : disk.Sound) (placed : disk.Placed store.root targets)
    (loads : Does (targets.mapM (·.load fingerprint)) store disk all store between)
    (settled : ∀ each ∈ all, each.current = true → disk.Settled each.target.files.symbols)
    (pass : Does (runPass fingerprint targets) store disk outcomes store' disk')
    (range : firstFree (usedIds all disk) + newSites outcomes ≤ 2 ^ 32) :
    all.map (·.target) = targets ∧ NumbersThrough fingerprint all disk (newSites outcomes) disk' :=
  ⟨(does_passLoads.1 loads).1.targets_eq,
    numbersThrough placed loads (fun each member current => sound.steady (settled each member current)) pass range⟩

/-- A current target that holds the id 0, and another that is given the id 1. -/
theorem runPass_siteIds_pair : ∃ all outcomes store' disk',
    Does (runPass "f1" [stampedTarget ⟨"B.isym"⟩, plainTarget]) pairStore pairDisk outcomes store' disk' ∧
      usedIds all pairDisk = [0] ∧ NumbersThrough "f1" all pairDisk 1 disk' ∧
      disk'.siteIds plainTarget.files = [1] := by
  have ids : pairDisk.siteIds (stampedTarget ⟨"B.isym"⟩).files = [0] := pairDisk_bears.siteIds
  have place : pairDisk.placeOf ⟨"B.isym"⟩ = ["B.isym"] := by with_unfolding_all decide
  have stamp : doneModule.wrapped.stampOf "f1" = .current := by decide
  obtain ⟨outcomes, store', disk', pass, count, -, -, new, -⟩ := pairDisk_pass pairDisk_loads.1 stamp
  obtain ⟨-, through⟩ := runPass_siteIds pairDisk_sound (pairDisk_separate place (by decide)).placed
    (does_passLoads.2 ⟨pairDisk_starts pairDisk_loads.1 stamp, rfl⟩)
    (List.forall_mem_cons.2 ⟨fun _ => pairDisk_settled (by with_unfolding_all decide) _ List.mem_cons_self,
      List.forall_mem_singleton.2 fun current => by cases current⟩)
    pass (by rw [pairDisk_usedIds, ids, count]; decide)
  rw [ids] at new
  exact ⟨_, outcomes, store', disk', pass, pairDisk_usedIds.trans ids, count ▸ through, new⟩

/-- Without the conditions on the paths the numbers of a module that is up to date may change. Its symbols are
found only after the pass, if their path climbs through a folder that comes with the backups, and then two
sites have one number; and they are overwritten if they are in the index of the store. -/
theorem runPass_siteIds_exposed : pairDisk.Sound ∧ pairDisk.Opens pairStore.root pairStore ∧
    (pairDisk.Placed pairStore.root [stampedTarget ⟨"bk/objects/../../B.isym"⟩, plainTarget] ∧
      ∃ all outcomes store' disk',
      Does ([stampedTarget ⟨"bk/objects/../../B.isym"⟩, plainTarget].mapM (·.load "f1")) pairStore pairDisk all
        pairStore pairDisk ∧
      Does (runPass "f1" [stampedTarget ⟨"bk/objects/../../B.isym"⟩, plainTarget]) pairStore pairDisk outcomes
        store' disk' ∧
      firstFree (usedIds all pairDisk) + newSites outcomes ≤ 2 ^ 32 ∧ (usedIds all pairDisk).Nodup ∧
      disk'.siteIds (stampedTarget ⟨"bk/objects/../../B.isym"⟩).files = [0] ∧ disk'.siteIds plainTarget.files = [0]) ∧
    (pairDisk.Apart (stampedTarget ⟨"bk/index.json"⟩).files plainTarget.files ∧ ∃ all outcomes store' disk',
      Does ([stampedTarget ⟨"bk/index.json"⟩, plainTarget].mapM (·.load "f1")) pairStore pairDisk all
        pairStore pairDisk ∧
      Does (runPass "f1" [stampedTarget ⟨"bk/index.json"⟩, plainTarget]) pairStore pairDisk outcomes store' disk' ∧
      firstFree (usedIds all pairDisk) + newSites outcomes ≤ 2 ^ 32 ∧
      pairDisk.siteIds (stampedTarget ⟨"bk/index.json"⟩).files = [0] ∧
      disk'.siteIds (stampedTarget ⟨"bk/index.json"⟩).files = []) := by
  refine ⟨pairDisk_sound, pairDisk_opens, ⟨?_, ?_⟩, ?_, ?_⟩
  · have place : pairDisk.placeOf ⟨"bk/objects/../../B.isym"⟩ = ["B.isym"] := by with_unfolding_all decide
    exact (pairDisk_separate place (by decide)).placed
  · have absent : pairDisk.isFile ⟨"bk/objects/../../B.isym"⟩ = false := by with_unfolding_all decide
    have ids : pairDisk.siteIds (stampedTarget ⟨"bk/objects/../../B.isym"⟩).files = [] :=
      Disk.siteIds_of_not_isFile absent
    have loads := pairDisk_loads_bare absent
    have stamp : doneModule.wrapped.bare.stampOf "f1" = .current := by decide
    obtain ⟨outcomes, store', disk', pass, count, objects, -, new, changes⟩ := pairDisk_pass loads stamp
    rw [ids] at new
    refine ⟨_, outcomes, store', disk', does_passLoads.2 ⟨pairDisk_starts loads stamp, rfl⟩, pass,
      by rw [pairDisk_usedIds, ids, count]; decide, by rw [pairDisk_usedIds, ids]; exact List.nodup_nil, ?_, new⟩
    have found : disk'.read ⟨"bk/objects/../../B.isym"⟩ = .ok (textBytes doneModule.symbols.text) :=
      pairDisk_climbs List.mem_cons_self (by with_unfolding_all rfl) objects changes
    rw [Disk.siteIds_of_read found, Symbols.ofText?_text]
    rfl
  · have place : pairDisk.placeOf ⟨"bk/index.json"⟩ = ["bk", "index.json"] := by with_unfolding_all decide
    obtain ⟨-, stamped, binary, plain⟩ := pairDisk_places
    rw [plainTarget] at binary plain
    simp [Disk.Apart, Disk.Holds, stampedTarget, plainTarget, stamped, binary, plain, place]
  · have loads := pairDisk_loads.2
    have ids := loads.siteIds
    have stamp :
      ({ doneModule.wrapped.bare with sites := doneModule.sites } : Module).stampOf "f1" = .current := by decide
    obtain ⟨outcomes, store', disk', pass, count, -, ⟨index, found⟩, -, -⟩ := pairDisk_pass loads stamp
    have path : SnapshotStore.indexPath pairStore.root = ⟨"bk/index.json"⟩ := by with_unfolding_all decide
    rw [path] at found
    refine ⟨_, outcomes, store', disk', does_passLoads.2 ⟨pairDisk_starts loads stamp, rfl⟩, pass,
      by rw [pairDisk_usedIds, ids, count]; decide, ids, ?_⟩
    rw [Disk.siteIds_of_read found, Symbols.ofText?_index]
    rfl

end Faultline
