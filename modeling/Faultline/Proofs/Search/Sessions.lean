import Faultline.Proofs.Search.Runs

namespace Faultline

/-- A known site of a type that the value is of. -/
def SiteTable.Takes (sites : SiteTable) (site : UInt32) (value : Value) : Prop :=
  ∃ known, sites.get? site = some known ∧ value.isAssignable known.type

theorem SiteTable.takes_copy {sites : SiteTable} (heap : Heap) {site : UInt32} {value : Value} :
    sites.Takes site (heap.copy value).1 ↔ sites.Takes site value := by
  simp only [SiteTable.Takes, Heap.isAssignable_copy]

/-- A test's profile that lists values of its own, each of the type of its site. -/
def Profile.Of (recorder : Recorder) (heap : Heap) (test : String) (profile : Profile) : Prop :=
  profile.test = test ∧ ∀ observation ∈ profile.latest, recorder.Knows observation ∧ heap.Holds observation.value

namespace Recorder

/-- Why a value is not installed at a site that does not take it. -/
def refusal (sites : SiteTable) (site : UInt32) (value : Value) : RecorderError :=
  match sites.get? site with
  | none => .unknownSite site
  | some known => .overrideType site known.type value.describe

theorem install_of_takes {recorder : Recorder} {site : UInt32} {value : Value}
    (takes : recorder.sites.Takes site value) :
    recorder.install site value = .ok { recorder with overrides := recorder.overrides.insert site value } := by
  obtain ⟨known, found, fits⟩ := takes
  simp only [install, found, fits, if_true]

theorem install_of_not_takes {recorder : Recorder} {site : UInt32} {value : Value}
    (refused : ¬ recorder.sites.Takes site value) :
    recorder.install site value = .error (refusal recorder.sites site value) := by
  unfold install refusal
  cases found : recorder.sites.get? site with
  | none => rfl
  | some known => exact if_neg fun fits => refused ⟨known, found, fits⟩

theorem uninstall_insert {recorder : Recorder} {site : UInt32} {value : Value}
    (installed : recorder.overrides = Table.empty.insert site value) :
    (recorder.uninstall site).overrides = .empty := by
  simp [uninstall, installed, Table.erase, Table.insert, Table.place, Table.empty]

/-- A run keeps the profiles of other tests, and the one that it writes lists values of its own too. -/
theorem Since.profiles {test : String} {start recorder : Recorder} {heap later : Heap} (h : Since test start recorder)
    (gains : Heap.Gains heap later)
    (before : ∀ other profile, start.profiles.get? other = some profile → profile.Of start heap other)
    (held : ∀ observation ∈ (recorder.written test).latest, later.Holds observation.value) :
    ∀ other profile, recorder.profiles.get? other = some profile → profile.Of recorder later other := by
  have earlier : ∀ other profile, start.profiles.get? other = some profile → profile.Of recorder later other := by
    intro other profile found
    obtain ⟨named, listed⟩ := before other profile found
    refine ⟨named, fun observation member => ?_⟩
    obtain ⟨known, kept⟩ := listed observation member
    rw [Knows, h.sites]
    exact ⟨known, kept.later gains⟩
  intro other profile found
  by_cases here : other = test
  · subst here
    cases mode : start.mode with
    | recording =>
      have written := h.written
      rw [h.recorded mode, Option.some.injEq] at found
      rw [← found]
      exact ⟨written.1, fun observation member => ⟨written.2 observation member, held observation member⟩⟩
    | replay =>
      rw [h.replayed mode] at found
      exact earlier other profile found
  · rw [h.others other here] at found
    exact earlier other profile found

end Recorder

namespace Session

section Substitution

variable {ε : Type}

/-- A session with its recorder in the given mode. -/
def inMode (session : Session ε) (mode : Mode) : Session ε :=
  session.mapRecorder fun recorder => { recorder with mode }

/-- A session with a copy of a value substituted at a site. -/
def substitute (session : Session ε) (site : UInt32) (value : Value) : Session ε :=
  { session with
    recorder := { session.recorder with
      overrides := session.recorder.overrides.insert site (session.heap.copy value).1 }
    heap := (session.heap.copy value).2 }

theorem trial_of_takes (executor : Executor ε) {session : Session ε} {site : UInt32} {value : Value}
    (takes : session.recorder.sites.Takes site value) (test : String) :
    session.trial executor site test value =
      (((session.substitute site value).run executor test).1,
        ((session.substitute site value).run executor test).2.mapRecorder (·.uninstall site)) := by
  have installed := Recorder.install_of_takes ((SiteTable.takes_copy session.heap).2 takes)
  simp only [trial, installed]
  rfl

theorem trial_of_not_takes (executor : Executor ε) {session : Session ε} {site : UInt32} {value : Value}
    (refused : ¬ session.recorder.sites.Takes site value) (test : String) :
    session.trial executor site test value =
      (.inconclusive (Recorder.refusal session.recorder.sites site value).message,
        { session with heap := (session.heap.copy value).2 }) := by
  have rejected := Recorder.install_of_not_takes (mt (SiteTable.takes_copy session.heap).1 refused)
  simp only [trial, rejected, Recorder.refusal, Heap.describe_copy]

end Substitution

/-- What every session keeps between runs: its tests can be run, no override is left, and its profiles list
values of their own. -/
structure Sound (session : Session TestSuite) : Prop where
  suite : session.state.Sound
  overrides : session.recorder.overrides = .empty
  profiles : ∀ test profile, session.recorder.profiles.get? test = some profile →
    profile.Of session.recorder session.heap test

/-- What any number of runs leave of a session. -/
structure Follows (session later : Session TestSuite) : Prop where
  suite : TestSuite.Same session.state later.state
  sites : later.recorder.sites = session.recorder.sites
  heap : Heap.Gains session.heap later.heap
  sound : later.Sound

/-- What runs in one mode leave of a session. -/
structure Continues (session later : Session TestSuite) : Prop extends Follows session later where
  mode : later.recorder.mode = session.recorder.mode
  replayed : session.recorder.mode = .replay → later.recorder.profiles = session.recorder.profiles

/-- Sessions that agree in all that a run depends on. -/
structure Peers (session session' : Session TestSuite) : Prop where
  sound : session.Sound
  sound' : session'.Sound
  suite : TestSuite.Same session.state session'.state
  sites : session'.recorder.sites = session.recorder.sites
  mode : session'.recorder.mode = session.recorder.mode

/-- The same result, the same number of steps and the same observations, but for the identities of objects. -/
structure SameRun (test : String) (ran ran' : TestResult × Session TestSuite) : Prop where
  result : ran'.1 = ran.1
  steps : ran'.2.state.machine.steps = ran.2.state.machine.steps
  observations : ∃ pairing, Heap.Paired pairing ran.2.heap ran'.2.heap ∧
    Profile.Alike pairing (ran.2.recorder.written test) (ran'.2.recorder.written test)

variable {session session' later last : Session TestSuite} {test : String} {site : UInt32} {value value' : Value}
  {grown : Nat → Nat → Prop} {ran ran' : TestResult × Session TestSuite}

theorem Follows.refl (sound : session.Sound) : Follows session session := ⟨.refl _, rfl, .refl, sound⟩

theorem Follows.trans (first : Follows session later) (second : Follows later last) : Follows session last :=
  ⟨first.suite.trans second.suite, second.sites.trans first.sites, first.heap.trans second.heap fun _ _ => id,
    second.sound⟩

theorem Continues.refl (sound : session.Sound) : Continues session session := ⟨.refl sound, rfl, fun _ => rfl⟩

theorem Continues.trans (first : Continues session later) (second : Continues later last) :
    Continues session last := by
  refine ⟨first.toFollows.trans second.toFollows, second.mode.trans first.mode, ?_⟩
  intro replaying
  rw [second.replayed (first.mode.trans replaying), first.replayed replaying]

theorem Sound.inMode (sound : session.Sound) (mode : Mode) : (session.inMode mode).Sound :=
  ⟨sound.suite, sound.overrides, sound.profiles⟩

theorem Sound.follows_inMode (sound : session.Sound) (mode : Mode) : Follows session (session.inMode mode) :=
  ⟨.refl _, rfl, .refl, sound.inMode mode⟩

theorem Peers.refl (sound : session.Sound) : Peers session session := ⟨sound, sound, .refl _, rfl, rfl⟩

/-- Sessions that follow the same one differ in nothing that a run depends on but the mode. -/
theorem Follows.peers (first : Follows session later) (second : Follows session last)
    (mode : last.recorder.mode = later.recorder.mode) :
    Peers later last :=
  ⟨first.sound, second.sound, first.suite.symm.trans second.suite, second.sites.trans first.sites.symm, mode⟩

theorem Peers.run (h : Peers session session') (test : String) :
    ∃ grown, RanBeside test (fun _ _ => False) session session' grown (session.run TestSuite.executor test)
      (session'.run TestSuite.executor test) := by
  have overrides :
      Table.Alike (Value.Alike fun _ _ => False) session.recorder.overrides session'.recorder.overrides := by
    rw [h.sound.overrides, h.sound'.overrides]
    exact .empty
  exact run_beside h.sound.suite ⟨h.suite, h.mode, h.sites, overrides, Heap.paired_none⟩ test

theorem Sound.after_uninstall (sound : session.Sound) (after : After test (session.substitute site value) later) :
    After test session (later.mapRecorder (·.uninstall site)) := by
  obtain ⟨suite, since⟩ := after
  have installed : later.recorder.overrides = Table.empty.insert site (session.heap.copy value).1 := by
    rw [since.overrides, ← sound.overrides]
    rfl
  exact ⟨suite, since.mode, since.sites, (Recorder.uninstall_insert installed).trans sound.overrides.symm,
    since.others, since.replayed, since.recorded, since.written⟩

/-- A trial leaves what a run leaves, since its override goes with it. -/
theorem Peers.trial (h : Peers session session') (same : Heap.SameContent session.heap value session'.heap value')
    (takes : session.recorder.sites.Takes site value) (test : String) :
    ∃ grown, RanBeside test (fun _ _ => False) session session' grown
      (session.trial TestSuite.executor site test value)
      (session'.trial TestSuite.executor site test value') := by
  have takes' : session'.recorder.sites.Takes site value' := by
    obtain ⟨_, _, alike⟩ := same
    simpa only [SiteTable.Takes, h.sites, alike.isAssignable_eq] using takes
  obtain ⟨pairing, heaps, alike, evolves⟩ := same.copy_both
  have overrides : Table.Alike (Value.Alike pairing) (session.substitute site value).recorder.overrides
      (session'.substitute site value').recorder.overrides := by
    simp only [substitute, h.sound.overrides, h.sound'.overrides]
    exact Table.Alike.empty.insert site alike
  have sound : (session.substitute site value).state.Sound := h.sound.suite
  have beside : Session.Beside pairing (session.substitute site value) (session'.substitute site value') :=
    ⟨h.suite, h.mode, h.sites, overrides, heaps⟩
  obtain ⟨grown, ran⟩ := run_beside sound beside test
  rw [trial_of_takes _ takes, trial_of_takes _ takes']
  exact ⟨grown, ran.result, ran.steps,
    ⟨ran.beside.suite, ran.beside.mode, ran.beside.sites, ran.beside.overrides.erase site,
    ran.beside.heaps⟩, ran.written, evolves.trans ran.evolves, h.sound.after_uninstall ran.after,
    h.sound'.after_uninstall ran.after'⟩

theorem RanBeside.sameRun (h : RanBeside test (fun _ _ => False) session session' grown ran ran')
    (known : test ∈ TestSuite.executor.tests session.state) : SameRun test ran ran' :=
  ⟨h.result, h.steps known, grown, h.beside.heaps, h.written⟩

/-- After a run beside another one, the session is sound again. -/
theorem RanBeside.continues (h : RanBeside test (fun _ _ => False) session session' grown ran ran')
    (sound : session'.Sound) :
    Continues session' ran'.2 := by
  obtain ⟨suite, since⟩ := h.after'
  have gains := h.evolves.gains.2
  have held : ∀ observation ∈ (ran'.2.recorder.written test).latest, ran'.2.heap.Holds observation.value := by
    intro observation member
    obtain ⟨_, _, same⟩ := forall₂_exists_left h.written.latest member
    exact .of_alike h.beside.heaps same.value
  exact ⟨⟨suite, since.sites, gains, suite.sound sound.suite, since.overrides.trans sound.overrides,
    since.profiles gains sound.profiles held⟩, since.mode, since.replayed⟩

theorem Sound.run (sound : session.Sound) (test : String) :
    Continues session (session.run TestSuite.executor test).2 := by
  obtain ⟨_, ran⟩ := (Peers.refl sound).run test
  exact ran.continues sound

/-- A trial continues the session: profiles, heap and statics are only extended. -/
theorem Sound.trial (sound : session.Sound) (held : session.heap.Holds value) (site : UInt32) (test : String) :
    Continues session (session.trial TestSuite.executor site test value).2 := by
  by_cases takes : session.recorder.sites.Takes site value
  · obtain ⟨_, ran⟩ := (Peers.refl sound).trial (held.sameContent .refl) takes test
    exact ran.continues sound
  · rw [trial_of_not_takes _ takes]
    have gains : Heap.Gains session.heap (session.heap.copy value).2 := .copy value
    have profiles : ∀ test profile, session.recorder.profiles.get? test = some profile →
        profile.Of session.recorder (session.heap.copy value).2 test := by
      intro test profile found
      obtain ⟨named, listed⟩ := sound.profiles test profile found
      exact ⟨named, fun observation member =>
        ⟨(listed observation member).1, (listed observation member).2.later gains⟩⟩
    exact ⟨⟨.refl _, rfl, gains, sound.suite, sound.overrides, profiles⟩, rfl, fun _ => rfl⟩

/-- The result of a trial is the same in all sessions that have the value. -/
theorem Peers.trial_result (h : Peers session session')
    (same : Heap.SameContent session.heap value session'.heap value') (site : UInt32) (test : String) :
    (session'.trial TestSuite.executor site test value').1 =
      (session.trial TestSuite.executor site test value).1 := by
  by_cases takes : session.recorder.sites.Takes site value
  · obtain ⟨_, ran⟩ := h.trial same takes test
    exact ran.result
  · obtain ⟨_, _, alike⟩ := same
    have refused : ¬ session'.recorder.sites.Takes site value' := by
      simpa only [SiteTable.Takes, h.sites, alike.isAssignable_eq] using takes
    rw [trial_of_not_takes _ takes, trial_of_not_takes _ refused]
    simp only [Recorder.refusal, h.sites, alike.describe_eq]

/-- Sessions that runs and trials of tests lead to, in any mode, number and order. -/
inductive Reached (start : Session TestSuite) : Session TestSuite → Prop where
  | start : Reached start start
  | mode {session : Session TestSuite} (mode : Mode) (before : Reached start session) :
      Reached start (session.inMode mode)
  | run {session : Session TestSuite} (test : String) (before : Reached start session) :
      Reached start (session.run TestSuite.executor test).2
  | trial {session : Session TestSuite} (site : UInt32) (test : String) {value : Value}
      (held : session.heap.Holds value)
      (before : Reached start session) : Reached start (session.trial TestSuite.executor site test value).2

/-- Soundness carries over from each session to the next, and with it all that later runs depend on. -/
theorem Reached.follows (reached : Reached session later) (sound : session.Sound) : Follows session later := by
  induction reached with
  | start => exact .refl sound
  | mode mode _ ih => exact ih.trans (ih.sound.follows_inMode mode)
  | run test _ ih => exact ih.trans (ih.sound.run test).toFollows
  | trial site test held _ ih => exact ih.trans (ih.sound.trial held site test).toFollows

theorem Reached.trans {start : Session TestSuite} (first : Reached start session) (second : Reached session later) :
    Reached start later := by
  induction second with
  | start => exact first
  | mode mode _ ih => exact .mode mode ih
  | run test _ ih => exact .run test ih
  | trial site test held _ ih => exact .trial site test held ih

/-- A suite just loaded, with a recorder that has seen nothing. -/
theorem sound_fresh {suite : TestSuite} (sound : suite.Sound) (sites : SiteTable) (heap : Heap) :
    Sound ⟨suite, .new sites, heap⟩ :=
  ⟨sound, rfl, fun _ _ found => by cases found⟩

end Session

end Faultline
