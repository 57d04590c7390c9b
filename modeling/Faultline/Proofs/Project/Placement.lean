import Mathlib.Data.List.Pairwise
import Faultline.Proofs.Project.Pass
import Faultline.Proofs.Storage.Folders

namespace Faultline

variable {fingerprint : String} {fields : FieldTypes} {next last : UInt32} {store store' : SnapshotStore}
  {disk between disk' : Disk} {target : PassTarget} {targets : List PassTarget} {loaded : LoadedTarget}
  {all : List LoadedTarget} {outcomes : List PassOutcome}

/-! Where a pass writes. -/

def Disk.Apart (disk : Disk) (files other : ModuleFiles) : Prop :=
  ∀ place, disk.Holds files place → ¬ disk.Holds other place

theorem Disk.Apart.symm {files other : ModuleFiles} (apart : disk.Apart files other) : disk.Apart other files :=
  fun place held held' => apart place held' held

/-- Different files, none of them in the folder of the backups. -/
structure Disk.Separate (disk : Disk) (root : Path) (targets : List PassTarget) : Prop where
  own : ∀ target ∈ targets, disk.placeOf target.files.binary ≠ disk.placeOf target.files.symbols
  apart : targets.Pairwise fun target other => disk.Apart target.files other.files
  outside : ∀ target ∈ targets, ∀ place, disk.Holds target.files place → ¬ disk.placeOf root <+: place

/-- Different files, none of them one of the store's own. -/
structure Disk.Placed (disk : Disk) (root : Path) (targets : List PassTarget) : Prop where
  own : ∀ target ∈ targets, disk.placeOf target.files.binary ≠ disk.placeOf target.files.symbols
  apart : targets.Pairwise fun target other => disk.Apart target.files other.files
  outside : ∀ target ∈ targets, ∀ place, disk.Holds target.files place → ¬ disk.Stored root place

theorem Disk.Separate.placed {root : Path} (separate : disk.Separate root targets) : disk.Placed root targets :=
  ⟨separate.own, separate.apart, fun target member place held stored =>
    separate.outside target member place held stored.below⟩

namespace Disk.Placed

variable {touched : Place → Prop} {root : Path}

theorem changes (placed : disk.Placed root targets) (changes : Changes touched disk disk') :
    disk'.Placed root targets := by
  refine ⟨?_, ?_, ?_⟩
  · simpa only [changes.placeOf] using placed.own
  · simpa only [Apart, changes.holds] using placed.apart
  · simpa only [changes.holds, changes.stored] using placed.outside

theorem tail (placed : disk.Placed root (target :: targets)) : disk.Placed root targets :=
  ⟨fun other member => placed.own other (List.mem_cons_of_mem _ member), placed.apart.of_cons,
    fun other member => placed.outside other (List.mem_cons_of_mem _ member)⟩

theorem head_apart (placed : disk.Placed root (target :: targets)) {place : Place}
    (held : disk.Holds target.files place) :
    ∀ other ∈ targets, ¬ disk.Holds other.files place :=
  fun other member => (List.pairwise_cons.1 placed.apart).1 other member place held

theorem sublist {chosen : List PassTarget} (placed : disk.Placed root targets) (among : chosen.Sublist targets) :
    disk.Placed root chosen :=
  ⟨fun target member => placed.own target (among.subset member), placed.apart.sublist among,
    fun target member => placed.outside target (among.subset member)⟩

end Disk.Placed

theorem PassTarget.Starts.target_eq (starts : target.Starts fingerprint store disk loaded disk') :
    loaded.target = target := by
  cases starts <;> rfl

theorem PassTarget.Starts.changes (starts : target.Starts fingerprint store disk loaded disk') :
    Disk.Changes (disk.Holds target.files) disk disk' := by
  cases starts with
  | current _ _ | unstamped _ _ => exact .refl _
  | stale _ _ restores _ => exact (SnapshotStore.does_restore restores).1.changes

theorem StartsAll.targets_eq (starts : StartsAll fingerprint store targets disk all disk') :
    all.map (·.target) = targets := by
  induction starts with
  | nil => rfl
  | cons first _ ih => rw [List.map_cons, ih, first.target_eq]

/-- Loading the targets changes files of the targets only. -/
theorem StartsAll.changes (starts : StartsAll fingerprint store targets disk all disk') :
    Disk.Changes (fun place => ∃ target ∈ targets, disk.Holds target.files place) disk disk' := by
  induction starts with
  | nil => exact .refl _
  | cons first _ ih =>
    refine (first.changes.mono fun place held => ⟨_, List.mem_cons_self, held⟩).trans (ih.mono ?_)
    rintro place ⟨other, member, held⟩
    rw [first.changes.holds] at held
    exact ⟨other, List.mem_cons_of_mem _ member, held⟩

theorem LoadedTarget.Instruments.root {status : PassStatus}
    (instruments : loaded.Instruments fingerprint fields next store disk status last store' disk') :
    store'.root = store.root := by
  cases instruments with
  | current _ => rfl
  | other _ backs _ _ => exact backs.root

/-- Instrumenting changes the store, and the files of a target that is not current. -/
theorem LoadedTarget.Instruments.changes_stored {status : PassStatus}
    (instruments : loaded.Instruments fingerprint fields next store disk status last store' disk') :
    Disk.Changes (fun place => disk.Stored store.root place ∨ loaded.current = false ∧
      disk.Holds loaded.target.files place)
      disk disk' := by
  cases instruments with
  | current _ => exact .refl _
  | other other backs _ stores =>
    refine (backs.changes_stored.mono fun place => Or.inl).trans
      (stores.changes.mono fun place held => Or.inr ⟨other, ?_⟩)
    rwa [backs.changes.holds] at held

/-- The files of the targets behind stay as they are. -/
theorem LoadedTarget.Instruments.spares_rest {status : PassStatus} {rest : List LoadedTarget}
    (instruments : loaded.Instruments fingerprint fields next store disk status last store' disk')
    (placed : disk.Placed store.root ((loaded :: rest).map (·.target))) :
    ∀ each ∈ rest, disk.Spares each.target.files disk' := by
  refine fun each member => instruments.changes_stored.spares fun place held => ?_
  rintro (stored | ⟨-, held'⟩)
  · exact placed.outside _ (List.mem_cons_of_mem _ (List.mem_map_of_mem member)) place held stored
  · exact placed.head_apart held' _ (List.mem_map_of_mem member) held

theorem LoadedTarget.Instruments.changes {status : PassStatus}
    (instruments : loaded.Instruments fingerprint fields next store disk status last store' disk') :
    Disk.Changes (fun place => disk.placeOf store.root <+: place ∨ loaded.current = false ∧
      disk.Holds loaded.target.files place)
      disk disk' :=
  instruments.changes_stored.mono fun _ => Or.imp_left Disk.Stored.below

/-- Instrumenting all targets changes the store, and the files of those that are not current. -/
theorem InstrumentsAll.changes_stored
    (instruments : InstrumentsAll fingerprint fields all next store disk outcomes store' disk') :
    Disk.Changes (fun place => disk.Stored store.root place ∨
      ∃ each ∈ all, each.current = false ∧ disk.Holds each.target.files place) disk disk' := by
  induction instruments with
  | nil => exact .refl _
  | cons first _ ih =>
    rw [first.root] at ih
    refine (first.changes_stored.mono fun place => Or.imp_right fun held =>
      ⟨_, List.mem_cons_self, held⟩).trans (ih.mono ?_)
    rintro place (stored | ⟨other, member, held⟩)
    · rw [first.changes.stored] at stored
      exact Or.inl stored
    · rw [first.changes.holds] at held
      exact Or.inr ⟨other, List.mem_cons_of_mem _ member, held⟩

theorem InstrumentsAll.changes
    (instruments : InstrumentsAll fingerprint fields all next store disk outcomes store' disk') :
    Disk.Changes (fun place => disk.placeOf store.root <+: place ∨
      ∃ each ∈ all, each.current = false ∧ disk.Holds each.target.files place) disk disk' :=
  instruments.changes_stored.mono fun _ => Or.imp_left Disk.Stored.below

theorem InstrumentsAll.root
    (instruments : InstrumentsAll fingerprint fields all next store disk outcomes store' disk') :
    store'.root = store.root := by
  induction instruments with
  | nil => rfl
  | cons first _ ih => exact ih.trans first.root

/-! What a pass leaves behind. -/

/-- Every target is started with while its files are as they were, and is left alone then until all targets
are loaded. -/
theorem StartsAll.started {start : Disk} {root : Path} (starts : StartsAll fingerprint store targets disk all disk')
    (placed : disk.Placed root targets) (before : ∀ target ∈ targets, start.Spares target.files disk) :
    ∀ each ∈ all, ∃ found left, each.target.Starts fingerprint store found each left ∧
      start.Spares each.target.files found ∧ left.Spares each.target.files disk' := by
  induction starts with
  | nil => exact fun _ member => (List.not_mem_nil member).elim
  | @cons target targets loaded rest disk between disk' first later ih =>
    refine List.forall_mem_cons.2 ⟨⟨disk, between, ?_, ?_, ?_⟩, ?_⟩
    · rw [first.target_eq]
      exact first
    · rw [first.target_eq]
      exact before _ List.mem_cons_self
    · rw [first.target_eq]
      refine later.changes.spares fun place held ⟨other, member, held'⟩ => ?_
      rw [first.changes.holds] at held held'
      exact placed.head_apart held other member held'
    · refine ih (placed.tail.changes first.changes) fun other member =>
        (before other (List.mem_cons_of_mem _ member)).trans ?_
      exact first.changes.spares fun place held held' => placed.head_apart held' other member held

/-- A module that was found up to date is still there, untouched, when all targets are loaded. -/
theorem StartsAll.current {start : Disk} {root : Path} (starts : StartsAll fingerprint store targets disk all disk')
    (placed : disk.Placed root targets) (before : ∀ target ∈ targets, start.Spares target.files disk) :
    ∀ each ∈ all, each.current = true → each.module.stampOf fingerprint = .current ∧
      ∃ found, found.Loads each.target.files each.module ∧ start.Spares each.target.files found ∧
        found.Spares each.target.files disk' := by
  rintro ⟨target, module, isCurrent, restored⟩ member current
  obtain ⟨found, left, first, untouched, after⟩ := starts.started placed before _ member
  cases first with
  | unstamped _ _ | stale _ _ _ _ => cases current
  | current loads stamp => exact ⟨stamp, found, loads, untouched, after⟩

/-- A target that is not current bears the instrumented module, stamped. -/
theorem LoadedTarget.Instruments.bears {status : PassStatus}
    (instruments : loaded.Instruments fingerprint fields next store disk status last store' disk')
    (other : loaded.current = false)
    (own : disk.placeOf loaded.target.files.binary ≠ disk.placeOf loaded.target.files.symbols) :
    ∃ done, loaded.module.instrumented fields next = .ok (done, last) ∧
    disk'.Bears loaded.target.files (done.stamp fingerprint) := by
  cases instruments with
  | current current =>
    rw [current] at other
    cases other
  | other _ backs instrumented stores =>
    rw [← backs.changes.placeOf, ← backs.changes.placeOf] at own
    exact ⟨_, instrumented, stores.bears own⟩

/-- Every module that is not left alone is there with its stamp in the end. -/
theorem InstrumentsAll.bears
    (instruments : InstrumentsAll fingerprint fields all next store disk outcomes store' disk')
    (placed : disk.Placed store.root (all.map (·.target))) :
    ∀ each ∈ all, each.current = false → ∃ next last done, each.module.instrumented fields next = .ok (done, last) ∧
      disk'.Bears each.target.files (done.stamp fingerprint) := by
  induction instruments with
  | nil => exact fun _ member => (List.not_mem_nil member).elim
  | cons first later ih =>
    have around := placed.changes first.changes
    rw [← first.root] at around
    refine List.forall_mem_cons.2 ⟨fun other => ?_, ih around.tail⟩
    obtain ⟨done, instrumented, bears⟩ := first.bears other (placed.own _ List.mem_cons_self)
    refine ⟨_, _, done, instrumented, bears.spared (later.changes_stored.spares fun place held => ?_)⟩
    rintro (stored | ⟨each, member, -, held'⟩)
    · exact around.outside _ List.mem_cons_self place held stored
    · exact around.head_apart held _ (List.mem_map_of_mem member) held'

/-- The files of a target stay as they are unless it is instrumented, even while more is written to the store. -/
theorem InstrumentsAll.spares_others {ahead : List LoadedTarget} {later : Disk}
    (instruments : InstrumentsAll fingerprint fields ahead next store disk outcomes store' disk')
    (among : ahead ⊆ all) (placed : disk.Placed store.root (all.map (·.target)))
    (after : Disk.Changes (disk.Stored store.root) disk' later) :
    ∀ each ∈ all, ¬ (each ∈ ahead ∧ each.current = false) → disk.Spares each.target.files later := by
  have apart := List.pairwise_map.1 placed.apart
  have : Std.Symm fun each other : LoadedTarget => disk.Apart each.target.files other.target.files :=
    ⟨fun _ _ => Disk.Apart.symm⟩
  intro each member left
  refine (instruments.changes_stored.trans (after.mono fun _ => Or.inl)).spares fun place held => ?_
  rintro (stored | ⟨other, early, changed, held'⟩)
  · exact placed.outside _ (List.mem_map_of_mem member) place held stored
  · have different : each ≠ other := by
      rintro rfl
      exact left ⟨early, changed⟩
    exact apart.forall member (among early) different place held held'

/-- A module that is left alone is still up to date in the end. -/
theorem InstrumentsAll.spares
    (instruments : InstrumentsAll fingerprint fields all next store disk outcomes store' disk')
    (placed : disk.Placed store.root (all.map (·.target))) :
    ∀ each ∈ all, each.current = true → disk.Spares each.target.files disk' := by
  intro each member current
  refine instruments.spares_others (List.Subset.refl all) placed (.refl disk') each member fun instrumented => ?_
  rw [current] at instrumented
  exact Bool.noConfusion instrumented.2

end Faultline
