import Faultline.Proofs.Search.Showings

namespace Faultline

open Relation (ReflTransGen)

namespace TestSuite

namespace Execution

variable {run later : Execution} {own kept : Nat → Prop} {site : UInt32} {point : HookPoint} {value : Value}

/-- The run with another recorder. -/
def mapRecorder (f : Recorder → Recorder) : Execution → Execution
  | running suite left state => running suite left (state.mapHook f)
  | ended result suite recorder heap => ended result suite (f recorder) heap

theorem recorder_mapRecorder (f : Recorder → Recorder) (run : Execution) :
    (run.mapRecorder f).recorder = f run.recorder := by
  cases run <;> rfl

theorem heap_mapRecorder (f : Recorder → Recorder) (run : Execution) : (run.mapRecorder f).heap = run.heap := by
  cases run <;> rfl

theorem owned_mapRecorder (f : Recorder → Recorder) (run : Execution) :
    (run.mapRecorder f).Owned own ↔ run.Owned own := by
  cases run with
  | running => exact ⟨fun h => ⟨h.frames, h.statics⟩, fun h => ⟨h.frames, h.statics⟩⟩
  | ended => exact Iff.rfl

/-- An instruction does the same with another recorder that does the same with what it is shown. -/
theorem next?_mapRecorder (run : Execution) (f : Recorder → Recorder)
    (agrees : ∀ point value, run.Shows point value →
      Hook.Agrees f Recorder.hook Recorder.hook run.recorder run.heap point value) :
    (run.mapRecorder f).next? = run.next?.map (mapRecorder f) := by
  match run with
  | ended .. | running _ 0 _ => rfl
  | running suite (left + 1) state =>
    have same : State.step suite.machine.program Recorder.hook suite.machine.limits (state.mapHook f) =
        (State.step suite.machine.program Recorder.hook suite.machine.limits state).mapHook f :=
      State.step_mapHook state fun frame callers instruction type point value rest calls fetched opcode popped =>
        agrees point value ⟨suite, left, state, rfl, frame, callers, instruction, type, rest, calls, fetched,
          opcode, popped⟩
    rw [mapRecorder, next?, next?, same]
    cases State.step suite.machine.program Recorder.hook suite.machine.limits state <;> rfl

theorem Shows.unique {point' : HookPoint} {value' : Value} (shows : run.Shows point value)
    (again : run.Shows point' value') :
    point = point' ∧ value = value' := by
  obtain ⟨suite, left, state, rfl, shows⟩ := shows
  obtain ⟨_, _, _, same, shows'⟩ := again
  cases same
  exact shows.unique shows'

/-- What is shown goes to the hook. -/
theorem next?_of_shows (shows : run.Shows point value) (next : run.next? = some later) :
    later.recorder = (Recorder.hook point value run.recorder run.heap).2.1 ∧
      later.heap = (Recorder.hook point value run.recorder run.heap).2.2 := by
  obtain ⟨suite, left, state, rfl, shows⟩ := shows
  have after := State.step_after_shows suite.machine.program Recorder.hook suite.machine.limits shows
  rw [next?] at next
  cases step : State.step suite.machine.program Recorder.hook suite.machine.limits state <;>
    rw [step] at after next <;> cases next <;>
    exact after

/-- Whether a value is what a program goes on with: its topmost operand, in a box if it is primitive. -/
def GoesOnWith (run : Execution) (value : Value) : Prop :=
  ∃ suite left frame callers memory recorder,
    run = .running suite left ⟨Frame.push frame value.box :: callers, memory, recorder⟩

/-- A program goes on with the answer of the hook. -/
theorem Shows.goesOn {answer : Value} (shows : run.Shows point value)
    (answers : (Recorder.hook point value run.recorder run.heap).1 = .ok answer)
    (fits : answer.isAssignable point.type) :
    ∃ later, run.next? = some later ∧ later.GoesOnWith answer := by
  obtain ⟨suite, left, state, rfl, shows⟩ := shows
  rcases called : Recorder.hook point value state.hookState state.memory.heap with ⟨given, recorder, heap⟩
  change (Recorder.hook point value state.hookState state.memory.heap).1 = .ok answer at answers
  rw [called] at answers
  cases answers
  obtain ⟨frame, callers, step⟩ := State.step_of_shows suite.machine.program suite.machine.limits shows called fits
  have next : (running suite (left + 1) state).next? =
      some (running suite left ⟨frame.push answer.box :: callers, ⟨heap, state.memory.statics⟩, recorder⟩) := by
    rw [next?, step]
  exact ⟨_, next, suite, left, frame, callers, _, _, rfl⟩

/-- A run in which the program can come by nothing that is on record or substituted at a site. -/
structure Withholds (site : UInt32) (own kept : Nat → Prop) (run : Execution) : Prop where
  split : run.heap.Split own kept
  apart : (run.recorder.uninstall site).Apart own kept
  owned : run.Owned own

/-- An instruction that does not show a value at the site does not look at what is substituted there. -/
theorem Withholds.step (h : run.Withholds site own kept) (next : run.next? = some later)
    (away : ∀ point value, run.Shows point value → run.recorder.Accepts point value → point.site ≠ site) :
    ∃ own' kept', later.Withholds site own' kept' ∧ run.heap.Keeps own kept later.heap own' kept' := by
  have mapped := next?_mapRecorder run (·.uninstall site) fun point value shows => by
    by_cases accepted : run.recorder.Accepts point value
    · exact Recorder.hook_uninstall (away point value shows accepted) _
    · exact Recorder.hook_uninstall_of_not_accepts accepted _
  rw [next, Option.map_some] at mapped
  have split := h.split
  have apart := h.apart
  rw [← heap_mapRecorder (·.uninstall site)] at split
  rw [← recorder_mapRecorder (·.uninstall site)] at apart
  obtain ⟨own', kept', split', keeps, apart', owned'⟩ :=
    process_confined.moves mapped split apart ((owned_mapRecorder ..).2 h.owned)
  change (mapRecorder _ later).heap.Split own' kept' at split'
  change (mapRecorder _ run).heap.Keeps own kept (mapRecorder _ later).heap own' kept' at keeps
  change (mapRecorder _ later).recorder.Apart own' kept' at apart'
  rw [heap_mapRecorder] at split'
  rw [heap_mapRecorder, heap_mapRecorder] at keeps
  rw [recorder_mapRecorder] at apart'
  exact ⟨own', kept', ⟨split', apart', (owned_mapRecorder ..).1 owned'⟩, keeps⟩

/-- So the override is as it was when the program comes to its site for the first time. -/
theorem Withholds.course {shown : List Showing} (h : run.Withholds site own kept)
    (course : process.Course Shows run shown later) (away : ∀ showing ∈ shown, showing.point.site ≠ site) :
    ∃ own' kept', later.Withholds site own' kept' ∧ run.heap.Keeps own kept later.heap own' kept' := by
  induction course with
  | start => exact ⟨own, kept, h, .refl⟩
  | @silent _ between later _ step same ih =>
    obtain ⟨own', kept', held, keeps⟩ := ih away
    obtain ⟨own'', kept'', held', keeps'⟩ := held.step step fun point value shows accepted => by
      have changed := (next?_of_shows shows step).1
      exact absurd (changed.symm.trans same) (Recorder.hook_ne_of_accepts accepted _)
    exact ⟨own'', kept'', held', keeps.trans keeps'⟩
  | @shows _ between later point value _ step showing _ _ _ ih =>
    obtain ⟨own', kept', held, keeps⟩ := ih fun showing listed => away showing (List.mem_append_left _ listed)
    obtain ⟨own'', kept'', held', keeps'⟩ := held.step step fun point' value' shows _ => by
      rw [← (showing.unique shows).1]
      exact away ⟨point, value, _⟩ (List.mem_append_right _ (List.mem_singleton_self _))
    exact ⟨own'', kept'', held', keeps.trans keeps'⟩

end Execution

end TestSuite

section Trials

open TestSuite

variable {subject : Subject} {rest : List Subject} {alternate seen : Value} {pool : List Value}
  {session : Session TestSuite} {installed : Recorder} {baseline : Option Baseline} {outcomes : List Findings}
  {found : Findings} {own kept : Nat → Prop} {run : Execution} {shown : List Showing} {point : HookPoint}

/-- The run of a subject's test with a copy of a value substituted, at its start. -/
def Session.trying (session : Session TestSuite) (subject : Subject) (alternate : Value)
    (installed : Recorder) : Execution :=
  process.start subject.test session.state (installed.beginTest subject.test) (session.heap.copy alternate).2

/-- At every hook call of a trial, the copy is substituted at the site of the subject and nothing at any other one. -/
theorem Session.stands_trying (stands : session.recorder.Stands .replay none .empty)
    (fits : session.recorder.install subject.site (session.heap.copy alternate).1 = .ok installed)
    (steps : ReflTransGen process.step (session.trying subject alternate installed) run) :
    run.recorder.Stands .replay (some subject.test)
      (Table.empty.insert subject.site (session.heap.copy alternate).1) ∧
      run.recorder.sites = session.recorder.sites := by
  have begun := (Recorder.Stands.install stands fits).beginTest subject.test
  have known : (installed.beginTest subject.test).sites = session.recorder.sites := by
    cases Recorder.eq_of_install fits
    exact (Recorder.since_beginTest ..).sites
  have hooked := process_hooks.hooked steps
  rw [trying, process_hooks.recorder] at hooked
  exact ⟨begun.hooked hooked, hooked.sites.trans known⟩

/-- The recorder accepts what fits the table of the session. -/
theorem Session.accepts_trying (stands : session.recorder.Stands .replay none .empty)
    (fits : session.recorder.install subject.site (session.heap.copy alternate).1 = .ok installed)
    (steps : ReflTransGen process.step (session.trying subject alternate installed) run) {site : Site}
    (known : session.recorder.sites.get? point.site = some site) (typed : site.type = point.type)
    (assignable : seen.isAssignable point.type) : run.recorder.Accepts point seen := by
  obtain ⟨here, same⟩ := Session.stands_trying stands fits steps
  exact ⟨here.testing ▸ rfl, site, same ▸ known, typed, assignable⟩

/-- In a trial the program goes on with the copy after it has come to the site of the subject, and at every
other site with what it had. -/
theorem Session.goesOn_trying (stands : session.recorder.Stands .replay none .empty)
    (fits : session.recorder.install subject.site (session.heap.copy alternate).1 = .ok installed)
    (steps : ReflTransGen process.step (session.trying subject alternate installed) run)
    (shows : run.Shows point seen) (accepted : run.recorder.Accepts point seen) :
    ∃ later, run.next? = some later ∧ later.heap = (run.heap.copy seen).2 ∧
      later.GoesOnWith (if point.site = subject.site then (session.heap.copy alternate).1 else seen) := by
  obtain ⟨here, known⟩ := Session.stands_trying stands fits steps
  obtain ⟨answers, left⟩ := Recorder.hook_of_replay accepted here.inMode run.heap
  rw [here.substituting, Table.get?_insert] at answers
  have typed :
      (if point.site = subject.site then (session.heap.copy alternate).1 else seen).isAssignable point.type := by
    obtain ⟨_, site, declared, type, assignable⟩ := accepted
    split
    · rename_i same
      obtain ⟨site', declared', fitting⟩ := Recorder.takes_of_install fits
      rw [known, same, declared', Option.some.injEq] at declared
      rwa [← type, ← declared]
    · exact assignable
  have answer :
      (if point.site = subject.site then some (session.heap.copy alternate).1
        else Table.empty.get? point.site).getD seen =
      if point.site = subject.site then (session.heap.copy alternate).1 else seen := by
    split <;> rfl
  rw [answer] at answers
  obtain ⟨later, next, goes⟩ := shows.goesOn answers typed
  exact ⟨later, next, (Execution.next?_of_shows shows next).2.trans left, goes⟩

/-- At the start of a trial the program can come by nothing that is on record, nor by the copy before it comes
to the site. -/
theorem Session.withholds_trying (stands : session.recorder.Stands .replay none .empty)
    (fits : session.recorder.install subject.site (session.heap.copy alternate).1 = .ok installed)
    (split : (session.heap.copy alternate).2.Split own kept)
    (records : ∀ value, session.recorder.Records value → value.Within kept)
    (stored : ∀ value, session.state.Stores value → value.Within own) :
    (session.trying subject alternate installed).Withholds subject.site own kept := by
  have begun := (Recorder.Stands.install stands fits).beginTest subject.test
  have recorder : (session.trying subject alternate installed).recorder = installed.beginTest subject.test :=
    process_hooks.recorder ..
  have heap : (session.trying subject alternate installed).heap = (session.heap.copy alternate).2 :=
    process_hooks.heap ..
  refine ⟨heap ▸ split, recorder ▸ ⟨fun value listed => ?_, ?_⟩, Execution.begin_owned subject.test _ _ stored⟩
  · have before : (installed.beginTest subject.test).Records value := listed.of_same rfl rfl
    cases Recorder.eq_of_install fits
    exact records value (before.of_beginTest.of_same rfl rfl)
  · rintro value ⟨site, installs⟩
    rw [begun.uninstall.substituting] at installs
    cases installs

/-- So the copy has its content until then. -/
theorem Session.sameContent_trying (stands : session.recorder.Stands .replay none .empty)
    (fits : session.recorder.install subject.site (session.heap.copy alternate).1 = .ok installed)
    (split : session.heap.Split own kept) (held : session.heap.Holds alternate)
    (records : ∀ value, session.recorder.Records value → value.Within kept)
    (stored : ∀ value, session.state.Stores value → value.Within own)
    (course : process.Course Execution.Shows (session.trying subject alternate installed) shown run)
    (away : ∀ showing ∈ shown, showing.point.site ≠ subject.site) :
    Heap.SameContent session.heap alternate run.heap (session.heap.copy alternate).1 := by
  obtain ⟨apart, _, copied⟩ := split.withhold held
  have withholds := Session.withholds_trying stands fits apart
    (fun value listed => (records value listed).mono fun _ => Or.inl) stored
  obtain ⟨own', kept', _, keeps⟩ := withholds.course course away
  have heap : (session.trying subject alternate installed).heap = (session.heap.copy alternate).2 :=
    process_hooks.heap ..
  rw [heap] at keeps
  exact held.copy.trans (keeps.sameContent apart copied)

/-- The heap of a trial never has fewer objects than when its override was copied. -/
theorem Moment.Separated.size_trying
    (h : (⟨baseline, outcomes, .searching found (subject :: rest), .resting session⟩ : Moment TestSuite
      Execution).Separated own kept)
    (pooled : subject.pool = alternate :: pool)
    (fits : session.recorder.install subject.site (session.heap.copy alternate).1 = .ok installed)
    (steps : ReflTransGen process.step (session.trying subject alternate installed) run) :
    (session.heap.copy alternate).2.size ≤ run.heap.size := by
  obtain ⟨_, _, begun, _⟩ := h.work process_confined (.tries pooled fits)
  have goesOn : ReflTransGen (Moment.Next TestSuite.executor process)
      ⟨baseline, outcomes, .searching found (subject :: rest), .running (session.trying subject alternate installed)⟩
      ⟨baseline, outcomes, .searching found (subject :: rest), .running run⟩ :=
      Moment.nexts_of_works (Moment.runs_all steps)
  obtain ⟨_, _, _, keeps⟩ := begun.nexts process_confined goesOn
  have before : (session.trying subject alternate installed).heap = (session.heap.copy alternate).2 :=
    process_hooks.heap ..
  exact before ▸ keeps.size

/-- What a program goes on with in a trial, after it has shown a value. -/
structure Session.Serves (session : Session TestSuite) (subject : Subject) (alternate : Value)
    (shown : List Showing) (point : HookPoint) (seen : Value) (later : Execution) : Prop where
  elsewhere : point.site ≠ subject.site → later.GoesOnWith seen
  override : point.site = subject.site → later.GoesOnWith (session.heap.copy alternate).1
  plain : alternate.reference? = none → (session.heap.copy alternate).1 = alternate
  first : (∀ showing ∈ shown, showing.point.site ≠ subject.site) →
    Heap.SameContent session.heap alternate later.heap (session.heap.copy alternate).1
  unchanged : (∀ id, (session.heap.copy alternate).2.Leads (· = (session.heap.copy alternate).1) id →
      later.heap.fields id = (session.heap.copy alternate).2.fields id) →
    Heap.SameContent session.heap alternate later.heap (session.heap.copy alternate).1

end Trials

end Faultline
