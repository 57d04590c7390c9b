import Faultline.Proofs.Recording.Requests
import Faultline.Proofs.Value.Separation

namespace Faultline

namespace Recorder

/-- The values that the recorder's profiles list. -/
def Records (recorder : Recorder) (value : Value) : Prop :=
  ∃ observation, recorder.Lists observation ∧ observation.value = value

/-- The values that are substituted at some site. -/
def Installs (recorder : Recorder) (value : Value) : Prop := ∃ site, recorder.overrides.get? site = some value

/-- Whether what the recorder lists is kept from the program, which can come by what it substitutes. -/
structure Apart (own kept : Nat → Prop) (recorder : Recorder) : Prop where
  records : ∀ value, recorder.Records value → value.Within kept
  installs : ∀ value, recorder.Installs value → value.Within own

/-- What hook calls leave as it was. -/
structure Hooked (recorder later : Recorder) : Prop where
  mode : later.mode = recorder.mode
  sites : later.sites = recorder.sites
  current : later.current = recorder.current
  overrides : later.overrides = recorder.overrides
  profiles : recorder.mode = .replay → later.profiles = recorder.profiles

variable {own own' kept kept' : Nat → Prop} {recorder later : Recorder} {heap : Heap}

theorem Hooked.refl (recorder : Recorder) : Hooked recorder recorder := ⟨rfl, rfl, rfl, rfl, fun _ => rfl⟩

/-- A hook call leaves the overrides, and the profiles that are not of the running test. -/
theorem hooked_hook (recorder : Recorder) (point : HookPoint) (value : Value) (heap : Heap) :
    Hooked recorder (Recorder.hook point value recorder heap).2.1 := by
  have responds := observe_responds recorder point value heap
  simp only [Recorder.hook]
  generalize observe point value recorder heap = outcome at responds
  cases responds with
  | refused => exact .refl recorder
  | recorded _ recording =>
    refine ⟨rfl, rfl, rfl, rfl, fun replaying => ?_⟩
    rw [recording] at replaying
    cases replaying
  | replayed => exact ⟨rfl, rfl, rfl, rfl, fun _ => rfl⟩

theorem Hooked.trans {last : Recorder} (first : Hooked recorder later) (second : Hooked later last) :
    Hooked recorder last := by
  refine ⟨second.mode.trans first.mode, second.sites.trans first.sites, second.current.trans first.current,
    second.overrides.trans first.overrides, fun replaying => ?_⟩
  rw [second.profiles (first.mode.trans replaying), first.profiles replaying]

/-- A new recorder lists nothing. -/
theorem not_records_new (sites : SiteTable) (value : Value) : ¬ (new sites).Records value := by
  rintro ⟨_, ⟨⟨⟩, _⟩ | ⟨⟨⟩, _⟩, _⟩

/-- An override that is accepted is of the type of its site. -/
theorem takes_of_install {site : UInt32} {value : Value} (accepted : recorder.install site value = .ok later) :
    recorder.sites.Takes site value := by
  by_contra refused
  rw [install_of_not_takes refused] at accepted
  cases accepted

/-- It is the only thing that changes. -/
theorem eq_of_install {site : UInt32} {value : Value} (accepted : recorder.install site value = .ok later) :
    later = { recorder with overrides := recorder.overrides.insert site value } := by
  rw [install_of_takes (takes_of_install accepted)] at accepted
  exact (Except.ok.inj accepted).symm

/-- Where profiles are the same, the same is listed. -/
theorem Lists.of_same {observation : Observation} (listed : later.Lists observation)
    (profiles : later.profiles = recorder.profiles) (replay : later.replay = recorder.replay) :
    recorder.Lists observation := by
  cases listed with
  | recorded stored listed => exact .recorded (profiles ▸ stored) listed
  | replayed stored listed => exact .replayed (replay ▸ stored) listed

theorem Records.of_same {value : Value} (recorded : later.Records value)
    (profiles : later.profiles = recorder.profiles) (replay : later.replay = recorder.replay) :
    recorder.Records value := by
  obtain ⟨observation, listed, rfl⟩ := recorded
  exact ⟨observation, listed.of_same profiles replay, rfl⟩

/-- The profile that is being written is one of those that list values. -/
theorem records_written {test : String} {observation : Observation}
    (listed : observation ∈ (recorder.written test).latest) :
    recorder.Records observation.value := by
  refine ⟨observation, ?_, rfl⟩
  rw [← List.mem_reverse] at listed
  unfold written at listed
  split at listed
  · obtain ⟨profile, stored, among⟩ := Profile.stored_of_mem listed
    exact .recorded stored among
  · obtain ⟨profile, stored, among⟩ := Profile.stored_of_mem listed
    exact .replayed stored among

theorem Records.of_beginTest {test : String} {value : Value} (recorded : (recorder.beginTest test).Records value) :
    recorder.Records value := by
  obtain ⟨observation, listed, rfl⟩ := recorded
  exact ⟨observation, listed.of_beginTest, rfl⟩

theorem Installs.of_beginTest {test : String} {value : Value} (installed : (recorder.beginTest test).Installs value) :
    recorder.Installs value := by
  obtain ⟨site, installed⟩ := installed
  rw [(recorder.since_beginTest test).overrides] at installed
  exact ⟨site, installed⟩

theorem Installs.of_uninstall {site : UInt32} {value : Value} (installed : (recorder.uninstall site).Installs value) :
    recorder.Installs value := by
  obtain ⟨other, installed⟩ := installed
  rw [Recorder.uninstall, Table.get?_erase] at installed
  split at installed
  · cases installed
  · exact ⟨other, installed⟩

theorem Installs.of_install {site : UInt32} {value other : Value} (accepted : recorder.install site value = .ok later)
    (installed : later.Installs other) : other = value ∨ recorder.Installs other := by
  cases eq_of_install accepted
  obtain ⟨place, installed⟩ := installed
  simp only [Table.get?_insert] at installed
  split at installed
  · exact Or.inl (Option.some.inj installed).symm
  · exact Or.inr ⟨place, installed⟩

theorem Apart.mono (h : recorder.Apart own kept) (more : ∀ id, own id → own' id) : recorder.Apart own' kept :=
  ⟨h.records, fun value installed => (h.installs value installed).mono more⟩

/-- A hook call lists nothing new but a copy of what it is shown. -/
theorem records_hook {point : HookPoint} {value seen : Value}
    (recorded : (Recorder.hook point value recorder heap).2.1.Records seen) : recorder.Records seen ∨
      seen = (heap.copy value).1 ∧ (Recorder.hook point value recorder heap).2.2 = (heap.copy value).2 := by
  obtain ⟨observation, listed, rfl⟩ := recorded
  have responds := observe_responds recorder point value heap
  simp only [Recorder.hook] at listed ⊢
  generalize observe point value recorder heap = outcome at responds listed
  obtain ⟨answer, after, last⟩ := outcome
  rcases responds.lists listed with older | ⟨_, _, _, new⟩
  · exact Or.inl ⟨observation, older, rfl⟩
  · cases responds with
    | refused => exact Or.inl ⟨observation, listed, rfl⟩
    | recorded | replayed => exact Or.inr ⟨new, rfl⟩

/-- A hook call adds to what is kept only a copy of what the program shows, and answers with what the program
can come by. -/
theorem Apart.hook (h : recorder.Apart own kept) (split : heap.Split own kept) (point : HookPoint) {value : Value}
    (within : value.Within own) : ∃ kept', (Recorder.hook point value recorder heap).2.2.Split own kept' ∧
      heap.Keeps own kept (Recorder.hook point value recorder heap).2.2 own kept' ∧
      (Recorder.hook point value recorder heap).2.1.Apart own kept' ∧
      ∀ answer, (Recorder.hook point value recorder heap).1 = .ok answer → answer.Within own := by
  have responds := observe_responds recorder point value heap
  have hooked := hooked_hook recorder point value heap
  obtain ⟨parted, keeps, copied⟩ := split.keep within
  have apart : (Recorder.hook point value recorder heap).2.1.Apart own fun id => kept id ∨ heap.madeFor value id := by
    refine ⟨fun seen recorded => ?_, fun other ⟨site, installed⟩ =>
      h.installs other ⟨site, hooked.overrides ▸ installed⟩⟩
    rcases records_hook recorded with older | ⟨rfl, _⟩
    · exact (h.records seen older).mono fun _ => Or.inl
    · exact copied
  simp only [Recorder.hook] at apart ⊢
  generalize observe point value recorder heap = outcome at responds apart
  cases responds with
  | refused => exact ⟨kept, split, .refl, h, fun _ answered => by cases answered⟩
  | recorded =>
    refine ⟨_, parted, keeps, apart, fun answer answered => ?_⟩
    cases answered
    exact within
  | replayed =>
    refine ⟨_, parted, keeps, apart, fun answer answered => ?_⟩
    cases answered
    cases installed : recorder.overrides.get? point.site with
    | none => exact within
    | some override => exact h.installs override ⟨_, installed⟩

end Recorder

end Faultline
