import Faultline.Proofs.Search.Sessions

namespace Faultline

namespace Session

/-- A value that a profile lists. -/
def Recorded (session : Session TestSuite) (value : Value) : Prop :=
  ∃ test profile, session.recorder.profiles.get? test = some profile ∧
    ∃ observation ∈ profile.observations, observation.value = value

/-- The baseline of tests that are run in the given order. -/
def recordInOrder {ε : Type} (executor : Executor ε) (order : List String)
    (session : Session ε) : Baseline × Session ε :=
  runAll executor order (session.mapRecorder fun recorder => { recorder.clearOverrides with mode := .recording })

theorem recordBaseline_eq {ε : Type} (executor : Executor ε) (selected : String → Bool) (session : Session ε) :
    session.recordBaseline executor selected = session.recordInOrder executor
      ((executor.tests session.state).filter selected) :=
  rfl

/-- What is left of recording tests one after the other, each of which saw and did what it sees and does alone. -/
structure RecordedAlone (alone session : Session TestSuite) (order : List String)
    (ran : Baseline × Session TestSuite) : Prop where
  continues : Continues session ran.2
  reached : Reached session ran.2
  results : ran.1 = order.map fun test => (test, (alone.run TestSuite.executor test).1)
  others : ∀ test, test ∉ order → ran.2.recorder.profiles.get? test = session.recorder.profiles.get? test
  profiles : ∀ test ∈ order, ∃ profile pairing, ran.2.recorder.profiles.get? test = some profile ∧
    Heap.Paired pairing (alone.run TestSuite.executor test).2.heap ran.2.heap ∧
    Profile.Alike pairing ((alone.run TestSuite.executor test).2.recorder.written test) profile

variable {alone origin session session' : Session TestSuite}

theorem Sound.recorded (sound : session.Sound) {value : Value} (recorded : session.Recorded value) :
    session.heap.Holds value := by
  obtain ⟨test, profile, found, observation, observed, rfl⟩ := recorded
  exact ((sound.profiles test profile found).2 observation (List.mem_reverse.1 observed)).2

/-- What a session held when the histories of two others began, both still have as it was. -/
theorem Follows.sameContent (first : Follows origin session) (second : Follows origin session') {value : Value}
    (held : origin.heap.Holds value) : Heap.SameContent session.heap value session'.heap value :=
  (held.sameContent first.heap).join (held.sameContent second.heap)

/-- Tests that are recorded in any order do as each does alone. -/
theorem runAll_alone (order : List String) (h : Peers alone session)
    (recording : session.recorder.mode = .recording) :
    RecordedAlone alone session order (runAll TestSuite.executor order session) := by
  induction order generalizing session with
  | nil => exact ⟨.refl h.sound', .start, rfl, fun _ _ => rfl, fun _ member => absurd member List.not_mem_nil⟩
  | cons test rest ih =>
    obtain ⟨grown, ran⟩ := h.run test
    have next := ran.continues h.sound'
    have since := ran.after'.recorder
    obtain ⟨continues, reached, results, others, profiles⟩ :=
      ih ⟨h.sound, next.sound, h.suite.trans next.suite, next.sites.trans h.sites, next.mode.trans h.mode⟩
        (next.mode.trans recording)
    unfold runAll
    refine ⟨next.trans continues, (Reached.run test .start).trans reached, ?_, ?_, ?_⟩
    · rw [List.map_cons, ← ran.result, ← results]
    · intro other absent
      obtain ⟨away, later⟩ := not_or.1 (mt List.mem_cons.2 absent)
      exact (others other later).trans (since.others other away)
    · intro other member
      by_cases later : other ∈ rest
      · exact profiles other later
      · have here : other = test := (List.mem_cons.1 member).resolve_right later
        subst here
        have kept := (others other later).trans (since.recorded recording)
        exact ⟨_, grown, kept, ran.beside.heaps.later continues.heap, ran.written⟩

theorem Sound.recordInOrder (sound : session.Sound) (order : List String) :
    session.recordInOrder TestSuite.executor order = runAll TestSuite.executor order (session.inMode .recording) := by
  obtain ⟨state, recorder, heap⟩ := session
  have empty : recorder.overrides = .empty := sound.overrides
  simp only [Session.recordInOrder, Session.inMode, mapRecorder, Recorder.clearOverrides, empty]

/-- Two orders of tests give the tests that they share the same results and the same profiles. -/
theorem RecordedAlone.agree {order order' : List String} {ran ran' : Baseline × Session TestSuite}
    (first : RecordedAlone alone session order ran) (second : RecordedAlone alone session' order' ran') :
    (∃ result : String → TestResult, ran.1 = order.map (fun test => (test, result test)) ∧
        ran'.1 = order'.map fun test => (test, result test)) ∧
      ∀ test ∈ order, test ∈ order' → ∃ profile profile' pairing, ran.2.recorder.profiles.get? test = some profile ∧
        ran'.2.recorder.profiles.get? test = some profile' ∧ Heap.Paired pairing ran.2.heap ran'.2.heap ∧
        Profile.Alike pairing profile profile' := by
  refine ⟨⟨_, first.results, second.results⟩, ?_⟩
  intro test member member'
  obtain ⟨profile, pairing, stored, heaps, alike⟩ := first.profiles test member
  obtain ⟨profile', pairing', stored', heaps', alike'⟩ := second.profiles test member'
  exact ⟨profile, profile', _, stored, stored', heaps.join heaps', alike.join alike'⟩

end Session

/-- A module with two tests of a method that shows its argument to the hook and throws if it is zero. -/
def guardedModule : Module :=
  { name := "Guarded", optimized := false, debugInfo := .full, metadata := .empty, classes := []
    sites := [⟨7, .int32, ⟨"tests", 3, 3, 5, 9⟩, "Tests::check"⟩]
    methods := [
      { owner := "Tests", name := "check", isStatic := true, params := [.int32], locals := [],
        returns := none, attributes := []
        body := some #[⟨.loadArg 0, none⟩, ⟨.box .int32, none⟩, ⟨.loadString "tests", none⟩,
          ⟨.loadInt32 3, none⟩, ⟨.loadInt32 3, none⟩, ⟨.loadInt32 5, none⟩, ⟨.loadInt32 9, none⟩,
          ⟨.loadInt64 7, none⟩, ⟨.callHook .int32, none⟩, ⟨.unbox .int32, none⟩, ⟨.jumpIfTrue 13, none⟩,
          ⟨.loadString "zero", none⟩, ⟨.throw, none⟩, ⟨.return, none⟩] },
      { owner := "Tests", name := "passes", isStatic := true, params := [], locals := [], returns := none,
        attributes := ["Test"]
        body := some #[⟨.loadInt32 1, none⟩, ⟨.call ⟨"Tests", "check"⟩, none⟩, ⟨.return, none⟩] },
      { owner := "Tests", name := "fails", isStatic := true, params := [], locals := [], returns := none,
        attributes := ["Test"]
        body := some #[⟨.loadInt32 0, none⟩, ⟨.call ⟨"Tests", "check"⟩, none⟩, ⟨.return, none⟩] }] }

end Faultline
