import Mathlib.Logic.Relation
import Faultline.Proofs.Recording.Separation
import Faultline.Proofs.Search.Reference

namespace Faultline

open Relation (ReflTransGen)

/-- A way of running tests whose runs, with states in `κ`, can be watched while they go on. -/
structure Process (ε κ : Type) where
  start : String → ε → Recorder → Heap → κ
  step : κ → κ → Prop
  ends : κ → TestResult → ε → Prop
  recorder : κ → Recorder
  heap : κ → Heap

/-- What a localizer has before it: nothing, the tests that are left of a baseline, or the subjects that are
left of a search. -/
inductive Task where
  | idle
  | recording (results : Baseline) (tests : List String)
  | searching (found : Findings) (subjects : List Subject)

/-- Whether a test is running. -/
inductive Stage (ε κ : Type) where
  | resting (session : Session ε)
  | running (run : κ)

/-- A localizer at one moment, with the outcomes of its searches so far. -/
structure Moment (ε κ : Type) where
  baseline : Option Baseline
  outcomes : List Findings
  task : Task
  stage : Stage ε κ

variable {ε κ : Type}

/-- What the trial of a value adds to what is found. -/
def Subject.finding (subject : Subject) (alternate : Value) : TestResult → Findings
  | .pass => ⟨[⟨subject.site, subject.test, subject.replaced, alternate⟩], [], 1⟩
  | .fail _ => ⟨[], [], 1⟩
  | .inconclusive reason => ⟨[], [⟨subject.site, subject.test, alternate, reason⟩], 1⟩

theorem Findings.append_empty (found : Findings) : found ++ Findings.empty = found := by
  change Findings.append _ _ = _
  simp only [append, empty, List.append_nil, Nat.add_zero]

theorem Findings.empty_append (found : Findings) : Findings.empty ++ found = found := by
  change Findings.append _ _ = _
  simp only [append, empty, List.nil_append, Nat.zero_add]

theorem Findings.append_assoc (found more last : Findings) : found ++ more ++ last = found ++ (more ++ last) := by
  change Findings.append (Findings.append _ _) _ = Findings.append _ (Findings.append _ _)
  simp only [append, List.append_assoc, Nat.add_assoc]

/-- What to try for tests, as far as they have a profile, in the order of the tests and by site in the order
of first sight. -/
def SiteTable.subjects (table : SiteTable) (profiles : List Profile) (tests : List String) : List Subject :=
  tests.flatMap fun test =>
    (profiles.find? (·.test = test)).toList.flatMap fun profile =>
      profile.sites.filterMap (table.subject? profiles profile)

/-- What a localizer does next while it records a baseline or searches. -/
inductive Moment.Work (process : Process ε κ) : Moment ε κ → Moment ε κ → Prop
  | begins {baseline : Option Baseline} {outcomes : List Findings} {results : Baseline} {test : String}
      {rest : List String}
      {session : Session ε} :
      Work process ⟨baseline, outcomes, .recording results (test :: rest), .resting session⟩
        ⟨baseline, outcomes, .recording results (test :: rest),
          .running (process.start test session.state (session.recorder.beginTest test) session.heap)⟩
  | runs {baseline : Option Baseline} {outcomes : List Findings} {task : Task} {run later : κ}
      (step : process.step run later) :
      Work process ⟨baseline, outcomes, task, .running run⟩ ⟨baseline, outcomes, task, .running later⟩
  | returns {baseline : Option Baseline} {outcomes : List Findings} {results : Baseline} {test : String}
      {rest : List String}
      {run : κ} {result : TestResult} {state : ε} (ended : process.ends run result state) :
      Work process ⟨baseline, outcomes, .recording results (test :: rest), .running run⟩
        ⟨baseline, outcomes, .recording (results ++ [(test, result)]) rest,
          .resting ⟨state, (process.recorder run).endTest, process.heap run⟩⟩
  | recorded {baseline : Option Baseline} {outcomes : List Findings} {results : Baseline} {session : Session ε} :
      Work process ⟨baseline, outcomes, .recording results [], .resting session⟩
      ⟨some results, outcomes, .idle, .resting session⟩
  | exhausted {baseline : Option Baseline} {outcomes : List Findings} {found : Findings} {subject : Subject}
      {rest : List Subject}
      {session : Session ε} (none : subject.pool = []) :
      Work process ⟨baseline, outcomes, .searching found (subject :: rest), .resting session⟩
        ⟨baseline, outcomes, .searching found rest, .resting session⟩
  | refused {baseline : Option Baseline} {outcomes : List Findings} {found : Findings} {subject : Subject}
      {rest : List Subject}
      {session : Session ε} {alternate : Value} {pool : List Value} {failure : RecorderError}
      (pooled : subject.pool = alternate :: pool)
      (unfit : session.recorder.install subject.site (session.heap.copy alternate).1 = .error failure) :
      Work process ⟨baseline, outcomes, .searching found (subject :: rest), .resting session⟩
        ⟨baseline, outcomes,
          .searching (found ++ subject.finding alternate (.inconclusive failure.message))
          ({ subject with pool } :: rest),
          .resting { session with heap := (session.heap.copy alternate).2 }⟩
  | tries {baseline : Option Baseline} {outcomes : List Findings} {found : Findings} {subject : Subject}
      {rest : List Subject}
      {session : Session ε} {alternate : Value} {pool : List Value} {installed : Recorder}
      (pooled : subject.pool = alternate :: pool)
      (fits : session.recorder.install subject.site (session.heap.copy alternate).1 = .ok installed) :
      Work process ⟨baseline, outcomes, .searching found (subject :: rest), .resting session⟩
        ⟨baseline, outcomes, .searching found (subject :: rest), .running
          (process.start subject.test session.state (installed.beginTest subject.test)
            (session.heap.copy alternate).2)⟩
  | judges {baseline : Option Baseline} {outcomes : List Findings} {found : Findings} {subject : Subject}
      {rest : List Subject}
      {alternate : Value} {pool : List Value} {run : κ} {result : TestResult} {state : ε}
      (pooled : subject.pool = alternate :: pool)
      (ended : process.ends run result state) :
      Work process ⟨baseline, outcomes, .searching found (subject :: rest), .running run⟩
        ⟨baseline, outcomes,
          .searching (found ++ subject.finding alternate result)
            ({ subject with pool := if result.isPass then [] else pool } :: rest),
          .resting ⟨state, (process.recorder run).endTest.uninstall subject.site, process.heap run⟩⟩
  | searched {baseline : Option Baseline} {outcomes : List Findings} {found : Findings} {session : Session ε} :
      Work process ⟨baseline, outcomes, .searching found [], .resting session⟩
        ⟨baseline, outcomes ++ [found], .idle, .resting (session.inMode .recording)⟩

/-- A localizer between calls. -/
def Localizer.moment (localizer : Localizer ε) (outcomes : List Findings) : Moment ε κ :=
  ⟨localizer.baseline, outcomes, .idle, .resting localizer.session⟩

/-- A localizer that has been told to record a baseline. -/
def Localizer.recordingBegun (executor : Executor ε) (localizer : Localizer ε)
    (outcomes : List Findings) : Moment ε κ :=
  ⟨localizer.baseline, outcomes, .recording [] ((executor.tests localizer.session.state).filter localizer.selected),
    .resting (localizer.session.mapRecorder fun recorder => { recorder.clearOverrides with mode := .recording })⟩

/-- A localizer that has been told to search, with the given baseline. -/
def Localizer.searchBegun (localizer : Localizer ε) (baseline : Baseline) (outcomes : List Findings) : Moment ε κ :=
  ⟨some baseline, outcomes, .searching .empty
      (localizer.session.recorder.sites.subjects (localizer.session.baselineProfiles baseline) baseline.failing),
    .resting (localizer.session.inMode .replay)⟩

/-- What a localizer does next, where calls to record a baseline and to search come in any order. -/
inductive Moment.Next (executor : Executor ε) (process : Process ε κ) : Moment ε κ → Moment ε κ → Prop
  | works {moment later : Moment ε κ} (work : moment.Work process later) : Next executor process moment later
  | records (localizer : Localizer ε) (outcomes : List Findings) :
      Next executor process (localizer.moment outcomes) (localizer.recordingBegun executor outcomes)
  | searches {localizer : Localizer ε} {baseline : Baseline} (ready : localizer.baseline = some baseline)
      (outcomes : List Findings) :
      Next executor process (localizer.moment outcomes) (localizer.searchBegun baseline outcomes)

theorem Moment.nexts_of_works {executor : Executor ε} {process : Process ε κ} {moment later : Moment ε κ}
    (works : ReflTransGen (Moment.Work process) moment later) :
    ReflTransGen (Moment.Next executor process) moment later :=
  works.lift id fun _ _ => .works

def Stage.recorder (process : Process ε κ) : Stage ε κ → Recorder
  | resting session => session.recorder
  | running run => process.recorder run

def Stage.heap (process : Process ε κ) : Stage ε κ → Heap
  | resting session => session.heap
  | running run => process.heap run

/-- Whether the runs of a process begin with what they are given, and change the recorder by hook calls only. -/
structure Process.Hooks (process : Process ε κ) : Prop where
  recorder : ∀ test state recorder heap, process.recorder (process.start test state recorder heap) = recorder
  heap : ∀ test state recorder heap, process.heap (process.start test state recorder heap) = heap
  step : ∀ run later, process.step run later → (process.recorder run).Hooked (process.recorder later)

/-- No work changes the sites that are known. -/
theorem Moment.Work.sites {process : Process ε κ} (hooks : process.Hooks) {moment later : Moment ε κ}
    (work : moment.Work process later) :
    (later.stage.recorder process).sites = (moment.stage.recorder process).sites := by
  cases work with
  | begins => exact (congrArg _ (hooks.recorder ..)).trans (Recorder.since_beginTest ..).sites
  | runs step => exact (hooks.step _ _ step).sites
  | tries _ fits =>
    cases Recorder.eq_of_install fits
    exact (congrArg _ (hooks.recorder ..)).trans (Recorder.since_beginTest ..).sites
  | _ => rfl

theorem Moment.sites_of_works {process : Process ε κ} (hooks : process.Hooks) {moment later : Moment ε κ}
    (works : ReflTransGen (Moment.Work process) moment later) :
    (later.stage.recorder process).sites = (moment.stage.recorder process).sites := by
  induction works with
  | refl => rfl
  | tail _ work ih => exact (work.sites hooks).trans ih

/-- Whether the runs of a process are those of an executor. -/
def Process.Performs (process : Process ε κ) (executor : Executor ε) : Prop :=
  ∀ test state recorder heap, ∃ run, ReflTransGen process.step (process.start test state recorder heap) run ∧
    ∃ result after, process.ends run result after ∧
      executor.run Recorder.hook test state recorder heap = (result, after, process.recorder run, process.heap run)

section Adequacy

variable {process : Process ε κ} {executor : Executor ε} (baseline : Option Baseline) (outcomes : List Findings)

theorem Moment.runs_all {baseline : Option Baseline} {outcomes : List Findings} {task : Task} {run later : κ}
    (steps : ReflTransGen process.step run later) :
    ReflTransGen (Moment.Work process) ⟨baseline, outcomes, task, .running run⟩
      ⟨baseline, outcomes, task, .running later⟩ := by
  induction steps with
  | refl => exact .refl
  | tail _ step ih => exact ih.tail (.runs step)

/-- The tests of a baseline are run one after the other. -/
theorem Process.Performs.runAll (performs : process.Performs executor) (results : Baseline) (tests : List String)
    (session : Session ε) :
    ReflTransGen (Moment.Work process) ⟨baseline, outcomes, .recording results tests, .resting session⟩
      ⟨baseline, outcomes, .recording (results ++ (Session.runAll executor tests session).1) [],
        .resting (Session.runAll executor tests session).2⟩ := by
  induction tests generalizing results session with
  | nil => rw [Session.runAll, List.append_nil]
  | cons test rest ih =>
    obtain ⟨run, steps, result, after, ended, ran⟩ :=
      performs test session.state (session.recorder.beginTest test) session.heap
    have once : session.run executor test = (result, ⟨after, (process.recorder run).endTest, process.heap run⟩) := by
      simp only [Session.run, ran]
    have later := ih (results ++ [(test, result)]) ⟨after, (process.recorder run).endTest, process.heap run⟩
    rw [List.append_assoc, List.singleton_append] at later
    simp only [Session.runAll, once]
    exact ((ReflTransGen.single .begins).trans ((Moment.runs_all steps).tail (.returns ended))).trans later

/-- What a localizer does to record a baseline, step by step. -/
theorem Process.Performs.recordBaseline (performs : process.Performs executor) (localizer : Localizer ε)
    (outcomes : List Findings) :
    ReflTransGen (Moment.Work process) (localizer.recordingBegun executor outcomes)
      ((localizer.recordBaseline executor).2.moment outcomes) := by
  have all := performs.runAll localizer.baseline outcomes []
    ((executor.tests localizer.session.state).filter localizer.selected)
    (localizer.session.mapRecorder fun recorder => { recorder.clearOverrides with mode := .recording })
  exact all.tail .recorded

/-- A trial adds its finding, and the first one that passes is the last one at its site. -/
theorem Session.tryAlternates_cons (executor : Executor ε) (subject : Subject) (alternate : Value) (pool : List Value)
    (session : Session ε) :
    let ran := session.trial executor subject.site subject.test alternate
    let rest := tryAlternates executor subject.test subject.site subject.replaced
      (if ran.1.isPass then [] else pool) ran.2
    tryAlternates executor subject.test subject.site subject.replaced (alternate :: pool) session =
      (subject.finding alternate ran.1 ++ rest.1, rest.2) := by
  rw [tryAlternates]
  generalize session.trial executor subject.site subject.test alternate = ran
  obtain ⟨result, later⟩ := ran
  cases result with
  | pass => rfl
  | fail reason => rfl
  | inconclusive reason => rfl

/-- The values of a pool are tried one after the other. -/
theorem Process.Performs.tryAlternates (performs : process.Performs executor) (found : Findings) (subject : Subject)
    (rest : List Subject) (session : Session ε) :
    ReflTransGen (Moment.Work process) ⟨baseline, outcomes, .searching found (subject :: rest), .resting session⟩
      ⟨baseline, outcomes,
        .searching (found ++
          (session.tryAlternates executor subject.test subject.site subject.replaced subject.pool).1) rest,
        .resting (session.tryAlternates executor subject.test subject.site subject.replaced subject.pool).2⟩ := by
  obtain ⟨test, site, replaced, pool⟩ := subject
  induction pool generalizing found session with
  | nil =>
    rw [Session.tryAlternates, Findings.append_empty]
    exact .single (.exhausted rfl)
  | cons alternate pool ih =>
    have spent : ∀ found session, ReflTransGen (Moment.Work process)
        ⟨baseline, outcomes, .searching found (⟨test, site, replaced, []⟩ :: rest), .resting session⟩
        ⟨baseline, outcomes, .searching found rest, .resting session⟩ := fun found session => .single (.exhausted rfl)
    have split := Session.tryAlternates_cons executor ⟨test, site, replaced, pool⟩ alternate pool session
    dsimp only at split ⊢
    rw [split, ← Findings.append_assoc]
    cases fits : session.recorder.install site (session.heap.copy alternate).1 with
    | error failure =>
      have refused : session.trial executor site test alternate =
          (.inconclusive failure.message, { session with heap := (session.heap.copy alternate).2 }) := by
        simp only [Session.trial, fits]
      rw [refused]
      exact (ReflTransGen.single (.refused rfl fits)).trans (ih ..)
    | ok installed =>
      obtain ⟨run, steps, result, after, ended, ran⟩ :=
        performs test session.state (installed.beginTest test) (session.heap.copy alternate).2
      have tried : session.trial executor site test alternate =
          (result, ⟨after, (process.recorder run).endTest.uninstall site, process.heap run⟩) := by
        simp only [Session.trial, fits, Session.run, ran, Session.mapRecorder]
      rw [tried]
      have judged : Moment.Work process
          ⟨baseline, outcomes, .searching found (⟨test, site, replaced, alternate :: pool⟩ :: rest),
            .running run⟩ _ :=
        .judges rfl ended
      refine (((ReflTransGen.single (.tries rfl fits)).trans (Moment.runs_all steps)).tail judged).trans ?_
      cases result.isPass with
      | true =>
        simp only [if_true, Session.tryAlternates, Findings.append_empty]
        exact spent ..
      | false => exact ih ..

/-- The sites of a profile are gone through one after the other. -/
theorem Process.Performs.trySites (performs : process.Performs executor) (hooks : process.Hooks)
    (profiles : List Profile) (profile : Profile) (sites : List UInt32) (found : Findings)
    (rest : List Subject) (session : Session ε) :
    ReflTransGen (Moment.Work process)
      ⟨baseline, outcomes,
        .searching found (sites.filterMap (session.recorder.sites.subject? profiles profile) ++ rest),
        .resting session⟩
      ⟨baseline, outcomes, .searching (found ++ (session.trySites executor profiles profile sites).1) rest,
        .resting (session.trySites executor profiles profile sites).2⟩ := by
  induction sites generalizing found session with
  | nil =>
    rw [Session.trySites, Findings.append_empty]
    exact .refl
  | cons site sites ih =>
    unfold Session.trySites
    rw [List.filterMap_cons]
    cases seen : profile.first? site with
    | none =>
      simp only [SiteTable.subject?, seen]
      exact ih ..
    | some first =>
      cases known : session.recorder.sites.get? site with
      | none =>
        simp only [SiteTable.subject?, seen, known]
        exact ih ..
      | some declared =>
        have subject : session.recorder.sites.subject? profiles profile site =
            some ⟨profile.test, site, first.value, alternateValues profiles site declared.type first.value⟩ := by
          simp only [SiteTable.subject?, seen, known]
        rw [subject]
        have here := performs.tryAlternates baseline outcomes found
          ⟨profile.test, site, first.value, alternateValues profiles site declared.type first.value⟩
          (sites.filterMap (session.recorder.sites.subject? profiles profile) ++ rest) session
        -- the subjects that are left were made from the table as it was at the start
        have table := Moment.sites_of_works hooks here
        dsimp only [Stage.recorder] at table
        rw [← table] at here ⊢
        refine here.trans ?_
        dsimp only
        rw [← Findings.append_assoc]
        exact ih ..

/-- The tests are gone through one after the other. -/
theorem Process.Performs.tryTests (performs : process.Performs executor) (hooks : process.Hooks)
    (profiles : List Profile) (tests : List String) (found : Findings) (session : Session ε) :
    ReflTransGen (Moment.Work process)
      ⟨baseline, outcomes, .searching found (session.recorder.sites.subjects profiles tests), .resting session⟩
      ⟨baseline, outcomes, .searching (found ++ (session.tryTests executor profiles tests).1) [],
        .resting (session.tryTests executor profiles tests).2⟩ := by
  induction tests generalizing found session with
  | nil =>
    rw [Session.tryTests, Findings.append_empty]
    exact .refl
  | cons test tests ih =>
    unfold Session.tryTests
    rw [SiteTable.subjects, List.flatMap_cons]
    cases stored : profiles.find? (·.test = test) with
    | none => exact ih ..
    | some profile =>
      rw [Option.toList_some, List.flatMap_singleton]
      have here := performs.trySites baseline outcomes hooks profiles profile profile.sites found
        (session.recorder.sites.subjects profiles tests) session
      have table := Moment.sites_of_works hooks here
      dsimp only [Stage.recorder] at table
      refine here.trans ?_
      dsimp only
      rw [← Findings.append_assoc, ← table]
      exact ih ..

/-- What a localizer does to search, step by step. -/
theorem Process.Performs.search (performs : process.Performs executor) (hooks : process.Hooks)
    {localizer later : Localizer ε} {baseline : Baseline} {found : Findings}
    (searched : localizer.search executor = .ok ((baseline, found), later)) (outcomes : List Findings) :
    ReflTransGen (Moment.Work process) (localizer.searchBegun baseline outcomes)
      (later.moment (outcomes ++ [found])) := by
  obtain ⟨session, selected, ready⟩ := localizer
  cases ready with
  | none => cases searched
  | some present =>
    rw [Localizer.search_of_baseline executor rfl] at searched
    cases searched
    have all := performs.tryTests (some baseline) outcomes hooks (session.baselineProfiles baseline)
      baseline.failing .empty (session.inMode .replay)
    rw [Findings.empty_append] at all
    exact all.tail .searched

end Adequacy

end Faultline
