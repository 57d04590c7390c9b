import Faultline.Proofs.Search.Clients

namespace Faultline

open Relation (ReflTransGen)

/-- How a recorder stands between hook calls. -/
structure Recorder.Stands (recorder : Recorder) (mode : Mode) (current : Option String)
    (overrides : Table UInt32 Value) : Prop where
  inMode : recorder.mode = mode
  testing : recorder.current = current
  substituting : recorder.overrides = overrides

namespace Recorder

variable {recorder later : Recorder} {mode : Mode} {current : Option String} {overrides : Table UInt32 Value}

theorem Stands.hooked (stands : recorder.Stands mode current overrides) (hooked : recorder.Hooked later) :
    later.Stands mode current overrides :=
  ⟨hooked.mode.trans stands.inMode, hooked.current.trans stands.testing, hooked.overrides.trans stands.substituting⟩

theorem Stands.beginTest (stands : recorder.Stands mode current overrides) (test : String) :
    (recorder.beginTest test).Stands mode (some test) overrides :=
  have since := recorder.since_beginTest test
  ⟨since.mode.trans stands.inMode, current_beginTest .., since.overrides.trans stands.substituting⟩

theorem Stands.endTest (stands : recorder.Stands mode current overrides) :
    recorder.endTest.Stands mode none overrides :=
  ⟨stands.inMode, rfl, stands.substituting⟩

theorem Stands.install {site : UInt32} {value : Value} (stands : recorder.Stands mode current overrides)
    (accepted : recorder.install site value = .ok later) :
    later.Stands mode current (overrides.insert site value) := by
  cases eq_of_install accepted
  exact ⟨stands.inMode, stands.testing, congrArg (·.insert site value) stands.substituting⟩

theorem Stands.uninstall {site : UInt32} {value : Value}
    (stands : recorder.Stands mode current (Table.empty.insert site value)) :
    (recorder.uninstall site).Stands mode current .empty :=
  ⟨stands.inMode, stands.testing, uninstall_insert stands.substituting⟩

end Recorder

variable {ε κ : Type}

/-- Moments at which nothing is substituted, but in the run of a trial a value at the one site that it is tried at. -/
def Moment.Orderly (process : Process ε κ) (moment : Moment ε κ) : Prop :=
  match moment.task, moment.stage with
  | .idle, .resting session => session.recorder.Stands .recording none .empty
  | .recording .., .resting session => session.recorder.Stands .recording none .empty
  | .recording _ (test :: _), .running run => (process.recorder run).Stands .recording (some test) .empty
  | .searching .., .resting session => session.recorder.Stands .replay none .empty
  | .searching _ (subject :: _), .running run =>
    ∃ value, (process.recorder run).Stands .replay (some subject.test) (Table.empty.insert subject.site value)
  | _, .running _ => False

def Task.IsRecording : Task → Prop
  | recording .. => True
  | _ => False

def Task.IsSearch : Task → Prop
  | searching .. => True
  | _ => False

/-- Moments of a search that has a baseline and profiles to go by. -/
structure Moment.Searches (process : Process ε κ) (baseline : Baseline) (profiles : Table String Profile)
    (moment : Moment ε κ) :
    Prop where
  orderly : moment.Orderly process
  searching : ¬ moment.task.IsRecording
  ready : moment.baseline = some baseline
  recorded : (moment.stage.recorder process).profiles = profiles

section Work

variable {process : Process ε κ} {moment later : Moment ε κ} {baseline : Baseline} {profiles : Table String Profile}

/-- Every step of a call keeps mode, running test and overrides in the order in which the call sets them. -/
theorem Moment.Orderly.work (hooks : process.Hooks) (orderly : moment.Orderly process)
    (work : moment.Work process later) :
    later.Orderly process := by
  cases work with
  | begins =>
    dsimp only [Orderly]
    rw [hooks.recorder]
    exact orderly.beginTest _
  | @runs _ _ task _ _ step =>
    have hooked := hooks.step _ _ step
    match task, orderly with
    | .recording _ (_ :: _), stands => exact stands.hooked hooked
    | .searching _ (_ :: _), ⟨value, stands⟩ => exact ⟨value, stands.hooked hooked⟩
  | returns => exact Recorder.Stands.endTest orderly
  | recorded | exhausted | refused => exact orderly
  | @tries _ _ _ _ _ session alternate _ _ _ fits =>
    refine ⟨(session.heap.copy alternate).1, ?_⟩
    rw [hooks.recorder]
    exact (Recorder.Stands.install orderly fits).beginTest _
  | judges =>
    obtain ⟨value, stands⟩ := orderly
    exact stands.endTest.uninstall
  | searched =>
    obtain ⟨_, testing, substituting⟩ := orderly
    exact ⟨rfl, testing, substituting⟩

theorem Moment.Orderly.works (hooks : process.Hooks) (orderly : moment.Orderly process)
    (works : ReflTransGen (Moment.Work process) moment later) : later.Orderly process := by
  induction works with
  | refl => exact orderly
  | tail _ work ih => exact ih.work hooks work

/-- Calls to record a baseline and to search, in any order, leave nothing substituted. -/
theorem Moment.Orderly.nexts {executor : Executor ε} (hooks : process.Hooks) (orderly : moment.Orderly process)
    (nexts : ReflTransGen (Moment.Next executor process) moment later) : later.Orderly process := by
  induction nexts with
  | refl => exact orderly
  | tail _ next ih =>
    cases next with
    | works work => exact ih.work hooks work
    | records =>
      obtain ⟨_, testing, _⟩ := ih
      exact ⟨rfl, testing, rfl⟩
    | searches =>
      obtain ⟨_, testing, substituting⟩ := ih
      exact ⟨rfl, testing, substituting⟩

/-- Work on one task does not begin another one. -/
theorem Moment.Work.task (work : moment.Work process later) :
    (later.task.IsRecording → moment.task.IsRecording) ∧ (later.task.IsSearch → moment.task.IsSearch) := by
  cases work with
  | runs => exact ⟨id, id⟩
  | begins | returns | recorded => exact ⟨fun _ => trivial, False.elim⟩
  | exhausted | refused | tries | judges | searched => exact ⟨False.elim, fun _ => trivial⟩

/-- No override is in place while a test runs that is not part of a search. -/
theorem Moment.Orderly.recording {run : κ} (orderly : moment.Orderly process) (running : moment.stage = .running run)
    (idle : ¬ moment.task.IsSearch) : ∃ test, (process.recorder run).Stands .recording (some test) .empty := by
  obtain ⟨_, _, task, stage⟩ := moment
  subst running
  match task, orderly with
  | .recording _ (test :: _), stands => exact ⟨test, stands⟩
  | .searching .., _ => exact absurd trivial idle

/-- One override is in place while a test runs that is part of a search. -/
theorem Moment.Orderly.searching {run : κ} (orderly : moment.Orderly process) (running : moment.stage = .running run)
    (searching : ¬ moment.task.IsRecording) :
    ∃ found subject rest value, moment.task = .searching found (subject :: rest) ∧
      (process.recorder run).Stands .replay (some subject.test) (Table.empty.insert subject.site value) := by
  obtain ⟨_, _, task, stage⟩ := moment
  subst running
  match task, orderly with
  | .recording _ _, _ => exact absurd trivial searching
  | .searching found (subject :: rest), ⟨value, stands⟩ => exact ⟨found, subject, rest, value, rfl, stands⟩

/-- The runs of a search write to no recorded profile. -/
theorem Moment.Searches.work (hooks : process.Hooks) (searches : moment.Searches process baseline profiles)
    (work : moment.Work process later) : later.Searches process baseline profiles := by
  refine ⟨searches.orderly.work hooks work, mt work.task.1 searches.searching, ?_, ?_⟩
  · cases work with
    | recorded => exact absurd trivial searches.searching
    | _ => exact searches.ready
  · refine Eq.trans ?_ searches.recorded
    have orderly := searches.orderly
    cases work with
    | begins | returns | recorded => exact absurd trivial searches.searching
    | runs step =>
      obtain ⟨_, _, _, _, _, stands⟩ := orderly.searching rfl searches.searching
      exact (hooks.step _ _ step).profiles stands.inMode
    | tries _ fits =>
      have stands := Recorder.Stands.install orderly fits
      cases Recorder.eq_of_install fits
      dsimp only [Stage.recorder]
      rw [hooks.recorder, (Recorder.since_beginTest ..).replayed stands.inMode]
    | _ => rfl

theorem Moment.Searches.works (hooks : process.Hooks) (searches : moment.Searches process baseline profiles)
    (works : ReflTransGen (Moment.Work process) moment later) : later.Searches process baseline profiles := by
  induction works with
  | refl => exact searches
  | tail _ work ih => exact ih.work hooks work

end Work

namespace Localizer

/-- What a localizer can be told to do. -/
inductive Call where
  | recordBaseline
  | search
  | rank (found : Findings)

/-- What is left of a localizer that has been told to do something. -/
def perform (executor : Executor ε) (localizer : Localizer ε) : Call → Localizer ε
  | .recordBaseline => (localizer.recordBaseline executor).2
  | .search =>
    match localizer.search executor with
    | .ok (_, later) => later
    | .error _ => localizer
  | .rank _ => localizer

def performAll (executor : Executor ε) (localizer : Localizer ε) (calls : List Call) : Localizer ε :=
  calls.foldl (perform executor) localizer

/-- What a call answers that is found by a search. -/
def finds (executor : Executor ε) (localizer : Localizer ε) : Call → List Findings
  | .search =>
    match localizer.search executor with
    | .ok ((_, found), _) => [found]
    | .error _ => []
  | .recordBaseline | .rank _ => []

def findsAll (executor : Executor ε) (localizer : Localizer ε) : List Call → List Findings
  | [] => []
  | call :: rest => localizer.finds executor call ++ findsAll executor (localizer.perform executor call) rest

/-- Whether tests run with one override each while the search goes on, at the site that a value is tried at,
and the search leaves the baseline and the recorded profiles alone. -/
structure SearchesSingly (executor : Executor ε) (process : Process ε κ) (localizer : Localizer ε)
    (baseline : Baseline) (found : Findings) (later : Localizer ε) : Prop where
  searched : localizer.search executor = .ok ((baseline, found), later)
  works : ReflTransGen (Moment.Work process) (localizer.searchBegun baseline []) (later.moment [found])
  running : ∀ moment run, ReflTransGen (Moment.Work process) (localizer.searchBegun baseline []) moment →
    moment.stage = .running run → (process.recorder run).mode = .replay ∧ ∃ found subject rest value,
      moment.task = .searching found (subject :: rest) ∧ (process.recorder run).current = some subject.test ∧
        (process.recorder run).overrides.entries = [(subject.site, value)]
  baseline : localizer.baseline = some baseline ∧ later.baseline = some baseline
  profiles : later.session.recorder.profiles = localizer.session.recorder.profiles

/-- Whether an executor has hold of nothing that the recorder lists. -/
structure Detached (held : ε → Value → Prop) (localizer : Localizer ε) : Prop where
  holds : ∀ value, held localizer.session.state value → localizer.session.heap.Holds value
  lists : ∀ value, localizer.session.recorder.Records value → localizer.session.heap.Holds value
  apart : ∀ id, localizer.session.heap.Leads (held localizer.session.state) id →
    ¬ localizer.session.heap.Leads localizer.session.recorder.Records id

/-- A localizer that has a baseline to search by. -/
structure Ready (localizer : Localizer ε) : Prop where
  stands : localizer.session.recorder.Stands .recording none .empty
  baseline : ∃ baseline, localizer.baseline = some baseline

section Calls

variable {executor : Executor ε} {process : Process ε κ} {localizer : Localizer ε}

theorem orderly_recordingBegun (free : localizer.session.recorder.current = none) (outcomes : List Findings) :
    (localizer.recordingBegun executor outcomes).Orderly process :=
  ⟨rfl, free, rfl⟩

theorem ready_recordBaseline (performs : process.Performs executor) (hooks : process.Hooks)
    (free : localizer.session.recorder.current = none) : (localizer.recordBaseline executor).2.Ready :=
  ⟨(orderly_recordingBegun free []).works hooks (performs.recordBaseline localizer []), _, rfl⟩

theorem Ready.searches (ready : localizer.Ready) (baseline : Baseline) :
    (localizer.searchBegun baseline []).Searches process baseline localizer.session.recorder.profiles :=
  ⟨⟨rfl, ready.stands.testing, ready.stands.substituting⟩, id, rfl, rfl⟩

/-- A search from a ready state tries one override at a time. -/
theorem Ready.searchesSingly (performs : process.Performs executor) (hooks : process.Hooks)
    (ready : localizer.Ready) :
    ∃ baseline found, localizer.SearchesSingly executor process baseline found
      (localizer.perform executor .search) := by
  obtain ⟨baseline, held⟩ := ready.baseline
  have searched := search_of_baseline executor held
  have works := performs.search hooks searched []
  have searches : (localizer.searchBegun baseline []).Searches process baseline _ := ready.searches baseline
  have done := searches.works hooks works
  rw [perform, searched]
  refine ⟨baseline, _, searched, works, fun moment run works running => ?_, ⟨held, done.ready⟩, done.recorded⟩
  have here := searches.works hooks works
  obtain ⟨found, subject, rest, value, task, stands⟩ := here.orderly.searching running here.searching
  exact ⟨stands.inMode, found, subject, rest, value, task, stands.testing, congrArg Table.entries stands.substituting⟩

/-- Every call leaves the recorder ready for the next. -/
theorem Ready.perform (performs : process.Performs executor) (hooks : process.Hooks) (ready : localizer.Ready)
    (call : Call) :
    (localizer.perform executor call).Ready := by
  cases call with
  | recordBaseline => exact ready_recordBaseline performs hooks ready.stands.testing
  | search =>
    obtain ⟨baseline, found, single⟩ := ready.searchesSingly performs hooks
    obtain ⟨_, kept⟩ := single.baseline
    exact ⟨((ready.searches baseline).works hooks single.works).orderly, _, kept⟩
  | rank => exact ready

theorem Ready.performAll (performs : process.Performs executor) (hooks : process.Hooks) (ready : localizer.Ready)
    (calls : List Call) : (localizer.performAll executor calls).Ready := by
  induction calls generalizing localizer with
  | nil => exact ready
  | cons call rest ih => exact ih (ready.perform performs hooks call)

/-- Each call is work from one moment to another. -/
theorem nexts_perform (performs : process.Performs executor) (hooks : process.Hooks) (localizer : Localizer ε)
    (call : Call) (outcomes : List Findings) : ReflTransGen (Moment.Next executor process) (localizer.moment outcomes)
      ((localizer.perform executor call).moment (outcomes ++ localizer.finds executor call)) := by
  cases call with
  | recordBaseline =>
    rw [finds, List.append_nil]
    exact .head (.records ..) (Moment.nexts_of_works (performs.recordBaseline localizer outcomes))
  | search =>
    cases held : localizer.baseline with
    | none =>
      rw [perform, finds, search, held]
      dsimp only
      rw [List.append_nil]
    | some baseline =>
      have searched := search_of_baseline executor held
      rw [perform, finds, searched]
      exact .head (.searches held outcomes) (Moment.nexts_of_works (performs.search hooks searched outcomes))
  | rank => rw [perform, finds, List.append_nil]

/-- A sequence of calls is a sequence of moments, with the outcomes of the calls appended. -/
theorem nexts_performAll (performs : process.Performs executor) (hooks : process.Hooks)
    (localizer : Localizer ε) (calls : List Call) (outcomes : List Findings) :
    ReflTransGen (Moment.Next executor process) (localizer.moment outcomes)
      ((localizer.performAll executor calls).moment (outcomes ++ localizer.findsAll executor calls)) := by
  induction calls generalizing localizer outcomes with
  | nil =>
    rw [findsAll, List.append_nil]
    exact .refl
  | cons call rest ih =>
    have later := ih (localizer.perform executor call) (outcomes ++ localizer.finds executor call)
    rw [List.append_assoc] at later
    exact (nexts_perform performs hooks localizer call outcomes).trans later

/-- So are calls that begin with the recording of a baseline. -/
theorem nexts_recordingBegun (performs : process.Performs executor) (hooks : process.Hooks) (localizer : Localizer ε)
    (calls : List Call) : ReflTransGen (Moment.Next executor process) (localizer.recordingBegun executor [])
      (((localizer.recordBaseline executor).2.performAll executor calls).moment
        ((localizer.recordBaseline executor).2.findsAll executor calls)) :=
  (Moment.nexts_of_works (performs.recordBaseline localizer [])).trans (nexts_performAll performs hooks _ calls [])

end Calls

section Isolation

variable {executor : Executor ε} {held : ε → Value → Prop} {localizer : Localizer ε}

/-- What is kept at first is apart from an executor that has hold of none of it. -/
theorem Detached.apart_recordingBegun (executor : Executor ε) {process : Process ε κ}
    {holds : (Nat → Prop) → κ → Prop} (detached : localizer.Detached held) :
    ∃ own kept, (localizer.recordingBegun executor []).Apart process
      (fun own state => ∀ value, held state value → value.Within own) holds own kept :=
  ⟨_, _, Localizer.apart_recordingBegun ⟨Heap.closed_leads detached.holds, Heap.closed_leads detached.lists,
    detached.apart⟩ (fun _ => Heap.within_leads) (fun _ none => nomatch none) fun _ => Heap.within_leads⟩

/-- A search changes nothing that is recorded, whatever was done since a baseline was recorded. -/
theorem Detached.sameContent (confined : executor.Confined held) (detached : localizer.Detached held)
    (rest : List Call) {value : Value}
    (recorded : ((localizer.recordBaseline executor).2.performAll executor rest).session.recorder.Records value)
    (call : Call) :
    Heap.SameContent ((localizer.recordBaseline executor).2.performAll executor rest).session.heap value
      (((localizer.recordBaseline executor).2.performAll executor rest).perform executor call).session.heap
        value := by
  have hooks := executor.process_hooks held
  have client := executor.process_confined held
  obtain ⟨own, kept, apart⟩ := detached.apart_recordingBegun executor
  obtain ⟨own', kept', apart', _⟩ := apart.nexts client (nexts_recordingBegun confined.performs hooks localizer rest)
  exact apart'.sameContent client (nexts_perform confined.performs hooks _ call _) (Or.inl recorded)

end Isolation

end Localizer

end Faultline
