import Mathlib.Data.List.Permutation
import Faultline.Proofs.Search.Trials

namespace Faultline

open Relation (ReflTransGen)

namespace Localizer

open TestSuite

/-- In a trial, the program goes on with the same copy of the value that is tried each time that it comes to
the site, and at every other site with what it had. The copy has the content that the value was recorded with
when the program gets it for the first time, and later as long as none of its objects has been changed. -/
theorem trial_serves {modules : List Module} {testModule : String} {limits : Limits} {suite : TestSuite}
    (loaded : TestSuite.load modules testModule limits = .ok suite) (sites : SiteTable) (heap : Heap)
    (selected : String → Bool) {baseline : Option Baseline} {outcomes : List Findings} {found : Findings}
    {subject : Subject} {rest : List Subject} {session : Session TestSuite} {alternate : Value}
    {pool : List Value} {installed : Recorder}
    (history : ReflTransGen (Moment.Next TestSuite.executor process)
      (moment ⟨⟨suite, .new sites, heap⟩, selected, none⟩ [])
      ⟨baseline, outcomes, .searching found (subject :: rest), .resting session⟩)
    (pooled : subject.pool = alternate :: pool)
    (fits : session.recorder.install subject.site (session.heap.copy alternate).1 = .ok installed)
    {shown : List Showing} {run : Execution}
    (course : process.Course Execution.Shows (session.trying subject alternate installed) shown run)
    {point : HookPoint} {seen : Value} (shows : run.Shows point seen)
    (accepted : run.recorder.Accepts point seen) :
    Moment.Observed (moment ⟨⟨suite, .new sites, heap⟩, selected, none⟩ [])
        ⟨baseline, outcomes, .searching found (subject :: rest), .resting session⟩ alternate ∧
      ∃ later, run.next? = some later ∧ session.Serves subject alternate shown point seen later := by
  have start := separated_moment (stores_of_load loaded) (Recorder.separate_new sites heap) selected none
  obtain ⟨own, kept, apart, _⟩ := start.nexts process_confined history
  have orderly : Moment.Orderly process (moment ⟨⟨suite, .new sites, heap⟩, selected, none⟩ []) := ⟨rfl, rfl, rfl⟩
  have stands : session.recorder.Stands .replay none .empty := orderly.nexts process_hooks history
  have recorded :
      Moment.Records process ⟨baseline, outcomes, .searching found (subject :: rest), .resting session⟩ alternate :=
    Or.inr (Or.inl (Or.inr ⟨subject, List.mem_cons_self .., Or.inr (pooled ▸ List.mem_cons_self ..)⟩))
  have held : session.heap.Holds alternate := apart.split.keptClosed.holds (apart.records alternate recorded)
  constructor
  · rcases start.origin history recorded with ⟨listed | none | ⟨_, none, _⟩, _⟩ | observed
    · exact absurd listed (Recorder.not_records_new sites alternate)
    · exact none.elim
    · cases none
    · exact observed
  · obtain ⟨later, next, left, goes⟩ := Session.goesOn_trying stands fits course.steps shows accepted
    refine ⟨later, next, fun away => ?_, fun same => ?_, Heap.copy_of_plain _, fun away => ?_, fun same => ?_⟩
    · rwa [if_neg away] at goes
    · rwa [if_pos same] at goes
    · have until_here := Session.sameContent_trying stands fits apart.split held
        (fun value listed => apart.records value (Or.inl listed)) apart.executor course away
      rw [left]
      exact until_here.trans (until_here.holds.sameContent (.copy seen))
    · exact held.copy.trans
        (held.copy.holds.stays (Moment.Separated.size_trying apart pooled fits (course.steps.tail next)) same)

def showMethod : Method :=
  { owner := "Tests", name := "show", isStatic := true, params := [.object "Cell"], locals := [],
    returns := some (.object "Cell")
    attributes := []
    body := some #[⟨.loadArg 0, none⟩, ⟨.loadString "tests", none⟩, ⟨.loadInt32 3, none⟩,
      ⟨.loadInt32 3, none⟩, ⟨.loadInt32 5, none⟩, ⟨.loadInt32 9, none⟩, ⟨.loadInt64 7, none⟩,
      ⟨.callHook (.object "Cell"), none⟩, ⟨.return, none⟩] }

/-- A test that shows its cell and fails if it goes on with that cell. Otherwise it marks the one that it goes
on with, shows that one, and fails if it goes on with a marked one. -/
def markingTest : Method :=
  { owner := "Tests", name := "marking", isStatic := true, params := [], locals := [], returns := none,
    attributes := ["Test"]
    body := some #[⟨.newObject "Cell", none⟩, ⟨.dup, none⟩, ⟨.call ⟨"Tests", "show"⟩, none⟩,
      ⟨.call ⟨"Cells", "mark"⟩, none⟩, ⟨.call ⟨"Tests", "show"⟩, none⟩, ⟨.call ⟨"Cells", "check"⟩, none⟩,
      ⟨.return, none⟩] }

def markingModule : Module :=
  { name := "Cells", optimized := false, debugInfo := .full, metadata := .empty,
    classes := [⟨"Cell", [⟨"mark", .int32, false⟩]⟩]
    sites := [⟨7, .object "Cell", ⟨"tests", 3, 3, 5, 9⟩, "Tests::show"⟩]
    methods := [showMethod, markingTest,
      { owner := "Tests", name := "showing", isStatic := true, params := [], locals := [], returns := none,
        attributes := ["Test"]
        body := some #[⟨.newObject "Cell", none⟩, ⟨.call ⟨"Tests", "show"⟩, none⟩, ⟨.pop, none⟩, ⟨.return, none⟩] },
      { owner := "Cells", name := "mark", isStatic := true, params := [.object "Cell", .object "Cell"], locals := []
        returns := some (.object "Cell"), attributes := []
        body := some #[⟨.loadArg 0, none⟩, ⟨.loadArg 1, none⟩, ⟨.compareEqual, none⟩, ⟨.jumpIfTrue 9, none⟩,
          ⟨.loadArg 1, none⟩, ⟨.loadInt32 1, none⟩, ⟨.storeField ⟨"Cell", "mark"⟩, none⟩, ⟨.loadArg 1, none⟩,
          ⟨.return, none⟩, ⟨.loadString "own", none⟩, ⟨.throw, none⟩] },
      { owner := "Cells", name := "check", isStatic := true, params := [.object "Cell"], locals := [],
        returns := none, attributes := []
        body := some #[⟨.loadArg 0, none⟩, ⟨.loadField ⟨"Cell", "mark"⟩, none⟩, ⟨.jumpIfFalse 5, none⟩,
          ⟨.loadString "marked", none⟩, ⟨.throw, none⟩, ⟨.return, none⟩] }] }

def markingPoint : HookPoint := ⟨7, .object "Cell", ⟨"tests", 3, 3, 5, 9⟩⟩

def markingBaseline : Baseline := [("Tests::marking", .fail "own"), ("Tests::showing", .pass)]

def markingSuite : TestSuite := (TestSuite.load [markingModule] "Cells" { steps := some 50 }).toOption.get rfl

def markingReady : Localizer TestSuite :=
  ((⟨⟨markingSuite, .new markingSuite.sites, .empty⟩, fun _ => true, none⟩ :
    Localizer TestSuite).recordBaseline TestSuite.executor).2

def markingSession : Session TestSuite := markingReady.session.inMode .replay

def cell (id : Nat) : Value := .object ⟨id, "Cell"⟩

def unmarked : Fields := .ofList [("mark", .int32 0)]

/-- So many cells without a mark. -/
def unmarkedHeap (count : Nat) : Heap := ⟨.replicate count unmarked⟩

def markingSubject : Subject := ⟨"Tests::marking", 7, cell 1, [cell 3]⟩

def markingInstalled : Recorder :=
  { markingSession.recorder with overrides := markingSession.recorder.overrides.insert 7 (cell 4) }

def markingTrial : Execution := markingSession.trying markingSubject (cell 3) markingInstalled

theorem heap_markingSession : markingSession.heap = unmarkedHeap 4 := by
  let shown : Heap := ((unmarkedHeap 1).copy (cell 0)).2
  calc markingSession.heap = ((shown.alloc "Cell" unmarked).2.copy (.object (shown.next "Cell"))).2 := rfl
    _ = unmarkedHeap 4 := by decide +kernel

/-- Each test has one cell on record. -/
theorem profiles_markingReady : markingReady.session.baselineProfiles markingBaseline =
    [⟨"Tests::marking", [⟨7, 0, .object "Cell", cell 1⟩], .ofList [(7, 1)]⟩,
      ⟨"Tests::showing", [⟨7, 0, .object "Cell", cell 3⟩], .ofList [(7, 1)]⟩] := by
  let shown : Heap := ((unmarkedHeap 1).copy (cell 0)).2
  calc markingReady.session.baselineProfiles markingBaseline =
      [⟨"Tests::marking", [⟨7, 0, .object "Cell", ((unmarkedHeap 1).copy (cell 0)).1⟩], .ofList [(7, 1)]⟩,
        ⟨"Tests::showing",
          [⟨7, 0, .object "Cell", ((shown.alloc "Cell" unmarked).2.copy (.object (shown.next "Cell"))).1⟩],
          .ofList [(7, 1)]⟩] := rfl
    _ = _ := by decide +kernel

theorem copy_markingSession : markingSession.heap.copy (cell 3) = (cell 4, unmarkedHeap 5) := by
  rw [heap_markingSession]
  cbv

theorem stands_markingSession : markingSession.recorder.Stands .replay none .empty := ⟨rfl, rfl, rfl⟩

theorem install_markingSession :
    markingSession.recorder.install markingSubject.site (markingSession.heap.copy (cell 3)).1 =
      .ok markingInstalled := by
  rw [copy_markingSession]
  exact Recorder.install_of_takes ⟨_, rfl, rfl⟩

/-- The moments from a new recorder to the trial of the one subject. -/
theorem nexts_markingSession : ReflTransGen (Moment.Next TestSuite.executor process)
    (moment ⟨⟨markingSuite, .new markingSuite.sites, .empty⟩, fun _ => true, none⟩ [])
    ⟨some markingBaseline, [], .searching .empty [markingSubject], .resting markingSession⟩ := by
  have begun : markingReady.searchBegun markingBaseline [] =
      (⟨some markingBaseline, [], .searching .empty [markingSubject], .resting markingSession⟩ :
        Moment TestSuite Execution) := by
    have subjects :
        markingReady.session.recorder.sites.subjects (markingReady.session.baselineProfiles markingBaseline)
        markingBaseline.failing = [markingSubject] := by
      rw [profiles_markingReady]
      rfl
    rw [searchBegun, subjects]
    rfl
  rw [← begun]
  exact (nexts_perform process_performs process_hooks _ .recordBaseline []).tail (.searches rfl [])

/-- The other test's cell is tried, as a copy that is the last of five cells. -/
theorem start_markingTrial : markingTrial = .running markingSession.state 50
    ⟨[⟨markingTest, 0, #[], #[], []⟩], ⟨unmarkedHeap 5, .empty⟩, markingInstalled.beginTest "Tests::marking"⟩ := by
  rw [markingTrial, Session.trying, copy_markingSession]
  rfl

theorem accepts_markingTrial {run : Execution} (steps : ReflTransGen process.step markingTrial run) (id : Nat) :
    run.recorder.Accepts markingPoint (cell id) :=
  Session.accepts_trying stands_markingSession install_markingSession steps rfl rfl rfl

/-- The first showing in a trial: the hook answers with a copy of the cell that was offered. -/
theorem trial_serves_first : ∃ suite run, TestSuite.load [markingModule] "Cells" { steps := some 50 } = .ok suite ∧
    ReflTransGen (Moment.Next TestSuite.executor process)
    (moment ⟨⟨suite, .new suite.sites, .empty⟩, fun _ => true, none⟩ [])
      ⟨some markingBaseline, [], .searching .empty [markingSubject], .resting markingSession⟩ ∧
      markingSubject.pool = [cell 3] ∧
    markingSession.recorder.install markingSubject.site (markingSession.heap.copy (cell 3)).1 = .ok markingInstalled ∧
    process.Course Execution.Shows markingTrial [] run ∧ run.Shows markingPoint (cell 5) ∧
    run.recorder.Accepts markingPoint (cell 5) ∧
    ∃ later, run.next? = some later ∧ later.GoesOnWith (cell 4) ∧
      Heap.SameContent markingSession.heap (cell 3) later.heap (cell 4) := by
  obtain ⟨run, goes, shows, few⟩ : ∃ run, markingTrial.after? 10 = some run ∧
      run.shown? = some (markingPoint, cell 5) ∧
      ((process.recorder run).written "Tests::marking").latest.length = 0 := by
    rw [start_markingTrial]
    exact ⟨_, rfl, rfl, rfl⟩
  have steps := Execution.steps_of_after? 10 goes
  obtain ⟨shown, course⟩ := process_tells.course steps
  have testing : (process.recorder markingTrial).current = some "Tests::marking" := by
    rw [start_markingTrial]
    rfl
  obtain ⟨_, length⟩ := course.length_written testing
  obtain rfl : shown = [] := List.eq_nil_of_length_eq_zero (by omega)
  have shows := Execution.shows_of_shown? shows
  have accepted := accepts_markingTrial steps 5
  obtain ⟨_, later, next, serves⟩ :=
    trial_serves (rfl : TestSuite.load [markingModule] "Cells" { steps := some 50 } = .ok markingSuite)
    markingSuite.sites .empty (fun _ => true) nexts_markingSession rfl install_markingSession course shows accepted
  have override := serves.override rfl
  have first := serves.first nofun
  rw [copy_markingSession] at override first
  exact ⟨markingSuite, run, rfl, nexts_markingSession, rfl, install_markingSession, course, shows, accepted,
    later, next, override, first⟩

/-- When the program comes to the site for the second time in the trial, it goes on with a cell that it has
marked itself, though the one that is tried has no mark. -/
theorem trial_changes_override : ∃ suite run later,
    TestSuite.load [markingModule] "Cells" { steps := some 50 } = .ok suite ∧
    ReflTransGen (Moment.Next TestSuite.executor process)
    (moment ⟨⟨suite, .new suite.sites, .empty⟩, fun _ => true, none⟩ [])
      ⟨some markingBaseline, [], .searching .empty [markingSubject], .resting markingSession⟩ ∧
      markingSubject.pool = [cell 3] ∧
    markingSession.recorder.install markingSubject.site (markingSession.heap.copy (cell 3)).1 = .ok markingInstalled ∧
    ReflTransGen process.step markingTrial run ∧ run.Shows markingPoint (cell 4) ∧
    markingPoint.site = markingSubject.site ∧
    run.next? = some later ∧ later.GoesOnWith (cell 4) ∧
    ¬ Heap.SameContent markingSession.heap (cell 3) later.heap (cell 4) := by
  -- The machine can be run up to a copy, whose size it does not know; so it is run to the first one, and on
  -- from what that has made.
  obtain ⟨recorder, first⟩ : ∃ recorder, markingTrial.after? 11 = some (.running markingSession.state 39
      ⟨[⟨showMethod, 8, #[cell 5], #[], [cell 4]⟩, ⟨markingTest, 3, #[], #[], [cell 5]⟩],
        ⟨((unmarkedHeap 6).copy (cell 5)).2, .empty⟩, recorder⟩) := by
    rw [start_markingTrial]
    exact ⟨_, rfl⟩
  have copied : ((unmarkedHeap 6).copy (cell 5)).2 = unmarkedHeap 7 := by cbv
  rw [copied] at first
  obtain ⟨run, second, shows, marked⟩ : ∃ run, Execution.after? (.running markingSession.state 39
      ⟨[⟨showMethod, 8, #[cell 5], #[], [cell 4]⟩, ⟨markingTest, 3, #[], #[], [cell 5]⟩],
        ⟨unmarkedHeap 7, .empty⟩, recorder⟩) 19 = some run ∧ run.shown? = some (markingPoint, cell 4) ∧
      run.heap = (unmarkedHeap 7).setFields ⟨4, "Cell"⟩ (.ofList [("mark", .int32 1)]) := ⟨_, rfl, rfl, rfl⟩
  have steps := (Execution.steps_of_after? 11 first).trans (Execution.steps_of_after? 19 second)
  have shows := Execution.shows_of_shown? shows
  have here : markingPoint.site = markingSubject.site := rfl
  obtain ⟨later, next, left, goesOn⟩ :=
    Session.goesOn_trying stands_markingSession install_markingSession steps shows (accepts_markingTrial steps 4)
  rw [if_pos here, copy_markingSession] at goesOn
  refine ⟨markingSuite, run, later, rfl, nexts_markingSession, rfl, install_markingSession, steps, shows,
    here, next, goesOn, ?_⟩
  rintro ⟨pairing, heaps, alike⟩
  cases alike with
  | object _ paired =>
    have fields := heaps.fields 3 4 paired
    have inside : 4 < run.heap.size := by
      rw [marked]
      decide
    rw [left, Heap.fields_copy_of_lt inside, marked, heap_markingSession] at fields
    obtain ⟨⟨_, marks⟩, _⟩ := List.forall₂_cons.1 fields
    cases marks

end Localizer

end Faultline
