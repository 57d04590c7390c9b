import Faultline.Proofs.Project.Restarts
import Faultline.Proofs.Site.Stamped

namespace Faultline

variable {fingerprint : String} {fields : FieldTypes} {next last : UInt32} {store store' : SnapshotStore}
  {start disk between disk' : Disk} {target : PassTarget} {targets targets' : List PassTarget} {loaded : LoadedTarget}
  {all all' ahead ahead' behind : List LoadedTarget} {outcomes outcomes₁ outcomes₂ : List PassOutcome}

/-! Counting on from the modules that are done. -/

theorem firstFree_le_iff {ids : List UInt32} {bound : Nat} :
    firstFree ids ≤ bound ↔ ∀ id ∈ ids, id.toNat < bound := by
  refine ⟨fun below id member => Nat.lt_of_lt_of_le (lt_firstFree member) below, fun below => ?_⟩
  unfold firstFree
  cases greatest : ids.max? with
  | none => exact Nat.zero_le bound
  | some id => exact below id (List.max?_mem greatest)

theorem firstFree_perm {ids ids' : List UInt32} (perm : ids.Perm ids') : firstFree ids = firstFree ids' :=
  eq_of_forall_ge_iff fun bound => by simp only [firstFree_le_iff, perm.mem_iff]

/-- The numbers given out are counted on from those in use. -/
theorem firstFree_append {ids new : List UInt32} {count : Nat}
    (given : new.map UInt32.toNat = List.range' (firstFree ids) count) :
    firstFree (ids ++ new) = firstFree ids + count := by
  refine Nat.le_antisymm (firstFree_le_iff.2 fun id member => ?_) ?_
  · rcases List.mem_append.1 member with used | fresh
    · exact Nat.lt_of_lt_of_le (lt_firstFree used) (Nat.le_add_right _ _)
    · have within := List.mem_map_of_mem (f := UInt32.toNat) fresh
      rw [given, List.mem_range'_1] at within
      exact within.2
  · cases count with
    | zero => exact firstFree_le_iff.2 fun id used => lt_firstFree (List.mem_append_left new used)
    | succ count =>
      have greatest : firstFree ids + count ∈ new.map UInt32.toNat := by
        rw [given, List.mem_range'_1]
        omega
      obtain ⟨id, fresh, same⟩ := List.mem_map.1 greatest
      have below := lt_firstFree (List.mem_append_right ids fresh)
      omega

theorem newSites_append : newSites (outcomes₁ ++ outcomes₂) = newSites outcomes₁ + newSites outcomes₂ := by
  simp [newSites]

theorem usedIds_append : usedIds (ahead ++ behind) disk = usedIds ahead disk ++ usedIds behind disk := by
  rw [usedIds, List.filter_append, List.flatMap_append]
  rfl

/-! Loading the targets again while their modules are instrumented. -/

/-- How a target is loaded again when its module is done: up to date, and with nothing new but its methods,
sites and stamp. -/
structure LoadedTarget.Done (fingerprint : String) (disk : Disk) (loaded again : LoadedTarget) : Prop where
  target : again.target = loaded.target
  current : again.current = true
  found : again.Found fingerprint disk
  classes : again.module.classes = loaded.module.classes

theorem fieldTypeIn?_eq (modules : List Module) (field : Member) :
    fieldTypeIn? modules field = (modules.map (·.classes)).findSome? fun classes =>
      ((classes.find? (·.name = field.owner)).bind (·.field? field.name)).map (·.type) := by
  rw [List.findSome?_map]
  rfl

/-- The types of fields are found in the classes alone. -/
theorem fieldTypeIn?_congr {modules modules' : List Module}
    (same : modules.map (·.classes) = modules'.map (·.classes)) :
    fieldTypeIn? modules = fieldTypeIn? modules' :=
  funext fun field => by rw [fieldTypeIn?_eq, fieldTypeIn?_eq, same]

theorem usedIds_done (done : List.Forall₂ (LoadedTarget.Done fingerprint disk) ahead ahead') :
    usedIds ahead' disk = ahead.flatMap fun each => disk.siteIds each.target.files := by
  induction done with
  | nil => rfl
  | cons here _ ih =>
    rw [usedIds, List.filter_cons_of_pos here.current, List.flatMap_cons, List.flatMap_cons, here.target,
      ← ih, usedIds]

/-- A pass in the midst of instrumenting. The modules ahead are done, and nothing has been written since but
to the store. -/
structure Halfway (fingerprint : String) (start between : Disk) (store : SnapshotStore)
    (ahead behind : List LoadedTarget) (outcomes : List PassOutcome) (store₁ : SnapshotStore)
    (disk₁ disk : Disk) : Prop where
  placed : between.Placed store.root ((ahead ++ behind).map (·.target))
  admitted : ∀ each ∈ ahead ++ behind, each.Admitted between
  found : ∀ each ∈ ahead ++ behind, ∀ disk, between.Spares each.target.files disk → each.Found fingerprint disk
  used : ∀ each ∈ ahead ++ behind, each.current = true →
    each.module.sites.map (·.id) = start.siteIds each.target.files
  distinct : ∀ each ∈ ahead ++ behind, (each.module.methods.map Method.qualifiedName).Nodup
  fits : ∀ each ∈ ahead ++ behind, each.current = false → ∀ next last done,
    each.module.instrumented (fieldTypeIn? ((ahead ++ behind).map (·.module))) next = .ok (done, last) →
      (done.stamp fingerprint).wrapped.Fits
  instruments : InstrumentsAll fingerprint (fieldTypeIn? ((ahead ++ behind).map (·.module))) ahead
    (siteIdAfter (LoadedTarget.usedSiteId? (ahead ++ behind))) store between outcomes store₁ disk₁
  range : firstFree (usedIds (ahead ++ behind) start) + newSites outcomes ≤ 2 ^ 32
  after : Disk.Changes (between.Stored store.root) disk₁ disk

namespace Halfway

variable {store₁ again : SnapshotStore} {disk₁ : Disk}
  (half : Halfway fingerprint start between store ahead behind outcomes₁ store₁ disk₁ disk)

include half

theorem spares : ∀ each ∈ ahead ++ behind, ¬ (each ∈ ahead ∧ each.current = false) →
    between.Spares each.target.files disk :=
  half.instruments.spares_others (List.subset_append_left ahead behind) half.placed half.after

theorem spares_current : ∀ each ∈ ahead ++ behind, each.current = true → between.Spares each.target.files disk := by
  refine fun each member current => half.spares each member fun other => ?_
  rw [current] at other
  exact Bool.noConfusion other.2

theorem spares_behind : ∀ each ∈ behind, between.Spares each.target.files disk := by
  refine fun each later => half.spares each (List.mem_append_right ahead later) fun early => ?_
  have apart := (List.pairwise_append.1 (List.pairwise_map.1 half.placed.apart)).2.2 each early.1 each later
  exact apart _ (Or.inl rfl) (Or.inl rfl)

theorem holds (files : ModuleFiles) : disk₁.Holds files = between.Holds files :=
  half.instruments.changes_stored.holds files

theorem front : between.Placed store.root (ahead.map (·.target)) :=
  half.placed.sublist ((List.sublist_append_left ahead behind).map (·.target))

/-- What was written for a module ahead has stayed. -/
theorem bears : ∀ each ∈ ahead, each.current = false → disk₁.Spares each.target.files disk ∧ ∃ next last done,
    each.module.instrumented (fieldTypeIn? ((ahead ++ behind).map (·.module))) next = .ok (done, last) ∧
      disk₁.Bears each.target.files (done.stamp fingerprint) := by
  refine fun each early other => ⟨half.after.spares ?_, half.instruments.bears half.front each early other⟩
  rw [half.holds]
  exact half.front.outside _ (List.mem_map_of_mem early)

/-- After the part of a pass that was carried out, every target in it is on disk as the pass writes it. -/
theorem done : ∀ each ∈ ahead, ∃ again, each.Done fingerprint disk again := by
  intro each early
  have member : each ∈ ahead ++ behind := List.mem_append_left behind early
  cases current : each.current with
  | true => exact ⟨each, rfl, current, half.found each member disk (half.spares_current each member current), rfl⟩
  | false =>
    obtain ⟨spares, next, last, done, instrumented, bears⟩ := half.bears each early current
    have stays : disk.Bears each.target.files (done.stamp fingerprint) := bears.spared spares
    have names := half.distinct each member
    rw [← Module.qualifiedNames_instrumented instrumented] at names
    refine ⟨⟨each.target, (done.stamp fingerprint).wrapped, true, false⟩, rfl, rfl, ⟨?_, ?_⟩, ?_⟩
    · exact stays.loads (half.fits each member current next last done instrumented) names
    · rw [Module.stampOf_wrapped, Module.stampOf_stamp, if_pos rfl, if_pos rfl]
    · obtain ⟨sites, rfl⟩ := Module.instrumented_eq instrumented
      rfl

/-- All targets can be loaded again as they stand. -/
theorem found_again (done : List.Forall₂ (LoadedTarget.Done fingerprint disk) ahead ahead') :
    ∀ each ∈ ahead' ++ behind, each.Found fingerprint disk := by
  intro each member
  rcases List.mem_append.1 member with early | later
  · obtain ⟨_, _, here⟩ := forall₂_exists_left done early
    exact here.found
  · exact half.found each (List.mem_append_right ahead later) disk (half.spares_behind each later)

theorem admitted_behind : ∀ each ∈ behind, each.Admitted disk := by
  intro each later
  refine (half.admitted each (List.mem_append_right ahead later)).imp_right fun admitted => ⟨admitted.1, ?_⟩
  obtain ⟨bytes, present⟩ := Disk.isFile_iff.1 admitted.2
  exact Disk.isFile_iff.2
    ⟨bytes, Disk.Changes.read (half.spares_behind each later) (not_not_intro (Or.inr rfl)) present⟩

/-- The numbers in use are those that were in use before and those that have been given out. -/
theorem usedIds_perm (done : List.Forall₂ (LoadedTarget.Done fingerprint disk) ahead ahead') :
    (usedIds (ahead' ++ behind) disk).Perm (usedIds (ahead ++ behind) start ++ newIds ahead disk₁) := by
  have kept : ∀ each ∈ ahead ++ behind, each.current = true →
      disk.siteIds each.target.files = start.siteIds each.target.files := by
    intro each member current
    rw [← half.used each member current]
    exact (half.found each member disk (half.spares_current each member current)).loads.siteIds
  have stay : newIds ahead disk = newIds ahead disk₁ := by
    refine List.flatMap_congr fun each member => ?_
    obtain ⟨early, other⟩ := List.mem_filter.1 member
    obtain ⟨spares, -, -, done, -, bears⟩ := half.bears each early (by simpa using other)
    exact Disk.steady_of_read bears.symbols disk spares
  rw [← usedIds_congr kept, ← stay, usedIds_append, usedIds_append, usedIds_done done, List.append_assoc]
  refine ((usedIds_append_newIds ahead disk).symm.append_right _).trans ?_
  rw [List.append_assoc]
  exact List.perm_append_comm.append_left _

/-- So the pass that is started anew goes on with the number that comes next. -/
theorem siteIdAfter_eq (done : List.Forall₂ (LoadedTarget.Done fingerprint disk) ahead ahead') :
    siteIdAfter (LoadedTarget.usedSiteId? (ahead' ++ behind)) =
      siteIdAfter (LoadedTarget.usedSiteId? (ahead ++ behind)) + .ofNat (newSites outcomes₁) := by
  have first := LoadedTarget.usedSiteId?_of_siteIds half.used
  have again := LoadedTarget.usedSiteId?_of_siteIds fun each member _ =>
    (half.found_again done each member).loads.siteIds.symm
  have given : (newIds ahead disk₁).map UInt32.toNat =
      List.range' (firstFree (usedIds (ahead ++ behind) start)) (newSites outcomes₁) := by
    rw [newIds, half.instruments.siteIds half.front, first, Faultline.siteIdAfter_eq, toNat_range half.range]
  rw [first, again, Faultline.siteIdAfter_eq, Faultline.siteIdAfter_eq, firstFree_perm (half.usedIds_perm done),
    firstFree_append given, UInt32.ofNat_add]

/-- Started anew, the pass finds the modules ahead done, and goes on with those behind as it would have. -/
theorem resumes (opened : again.Synced disk) (root : again.root = store.root)
    (onward : InstrumentsAll fingerprint (fieldTypeIn? ((ahead ++ behind).map (·.module))) behind
      (siteIdAfter (LoadedTarget.usedSiteId? (ahead ++ behind)) + .ofNat (newSites outcomes₁)) again disk
        outcomes₂ store' disk') :
    disk.Resumes fingerprint ((ahead ++ behind).map (·.target)) store.root disk' := by
  obtain ⟨ahead', done⟩ := exists_forall₂ half.done
  have targets : ahead.map (·.target) = ahead'.map (·.target) :=
    forall₂_map_eq (done.imp fun _ _ here => here.target.symm)
  have classes : ahead.map (·.module.classes) = ahead'.map (·.module.classes) :=
    forall₂_map_eq (done.imp fun _ _ here => here.classes.symm)
  have fields : fieldTypeIn? ((ahead ++ behind).map (·.module)) = fieldTypeIn?
      ((ahead' ++ behind).map (·.module)) := by
    refine fieldTypeIn?_congr ?_
    rw [List.map_map, List.map_map, List.map_append, List.map_append]
    exact congrArg (· ++ _) classes
  have current : ∀ each ∈ ahead', each.current = true := fun each early => by
    obtain ⟨_, _, here⟩ := forall₂_exists_left done early
    exact here.current
  obtain ⟨outcomes, onward⟩ := onward.after_current current
  rw [← half.siteIdAfter_eq done, fields] at onward
  rw [← root, List.map_append, targets, ← List.map_append]
  refine (startsAll_of_found again (half.found_again done)).resumes opened ?_ ?_ onward
  · rw [List.map_map]
    rfl
  · intro each member
    rcases List.mem_append.1 member with early | later
    · exact Or.inl (current each early)
    · exact half.admitted_behind each later

end Halfway

end Faultline
