import Faultline.Proofs.Recording.Ownership
import Faultline.Proofs.Search.Isolation

namespace Faultline

open Relation (ReflTransGen)

namespace TestSuite

/-- A run of a test: going on, with the number of instructions that it still may execute, or over. -/
inductive Execution where
  | running (suite : TestSuite) (left : Nat) (state : State Recorder)
  | ended (result : TestResult) (suite : TestSuite) (recorder : Recorder) (heap : Heap)

/-- The number of instructions that a run may execute. -/
def limit (suite : TestSuite) : UInt64 := suite.machine.limits.steps.getD 0xFFFFFFFFFFFFFFFF

/-- A suite whose machine has executed a test, so many instructions of it, and has kept the static fields. -/
def ran (suite : TestSuite) (steps : Nat) (statics : Table Member Value) : TestSuite :=
  ⟨⟨suite.machine.program, suite.machine.limits, ⟨.empty, statics⟩, steps⟩, suite.tests⟩

namespace Execution

def begin (test : String) (suite : TestSuite) (recorder : Recorder) (heap : Heap) : Execution :=
  match suite.tests.find? (·.text = test) with
  | none => .ended (.inconclusive s!"unknown test {test}") suite recorder heap
  | some method =>
    match suite.machine.program.method method with
    | .error failure => .ended (verdict (.error failure)) (suite.ran suite.machine.steps .empty) recorder heap
    | .ok target =>
      match enterCall suite.machine.limits target [] [] with
      | .error failure => .ended (verdict (.error failure)) (suite.ran 0 .empty) recorder heap
      | .ok frames => .running suite suite.limit.toNat ⟨frames, ⟨heap, .empty⟩, recorder⟩

/-- What a run is after its next instruction. -/
def next? : Execution → Option Execution
  | running suite 0 state =>
    some (.ended (verdict (.error (.stepLimit suite.limit)))
      (suite.ran (suite.limit.toNat - 0) state.memory.statics) state.hookState state.memory.heap)
  | running suite (left + 1) state =>
    match state.step suite.machine.program Recorder.hook suite.machine.limits with
    | .running later => some (.running suite left later)
    | .halted result last =>
      some (.ended (verdict result) (suite.ran (suite.limit.toNat - left) last.memory.statics) last.hookState
        last.memory.heap)
  | ended .. => none

def recorder : Execution → Recorder
  | running _ _ state => state.hookState
  | ended _ _ recorder _ => recorder

def heap : Execution → Heap
  | running _ _ state => state.memory.heap
  | ended _ _ _ heap => heap

end Execution

/-- The runs of a suite's tests, instruction by instruction. -/
def process : Process TestSuite Execution where
  start := Execution.begin
  step run later := run.next? = some later
  ends run result suite := ∃ recorder heap, run = .ended result suite recorder heap
  recorder := Execution.recorder
  heap := Execution.heap

/-- The values that a suite's machine has at hand between runs. -/
def Stores (suite : TestSuite) (value : Value) : Prop := value ∈ suite.machine.memory.statics.values

/-- The values that a program has at hand while it runs. -/
def Execution.Has : Execution → Value → Prop
  | running _ _ state, value => state.Has value
  | ended _ suite _ _, value => suite.Stores value

/-- A run that has no object at hand but those of a set. -/
def Execution.Owned (own : Nat → Prop) : Execution → Prop
  | running suite _ state => state.Owned suite.machine.program own
  | ended _ suite _ _ => ∀ value, suite.Stores value → value.Within own

section Process

variable {suite : TestSuite} {recorder : Recorder} {heap : Heap} {own kept : Nat → Prop} {run later : Execution}

/-- A test run by the machine is a path of single steps with the same end. -/
theorem runs_state (suite : TestSuite) (left : Nat) (state : State Recorder)
    {result : Except RuntimeError (Option Value)} {spare : Nat} {last : State Recorder}
    (ran : state.run suite.machine.program Recorder.hook suite.machine.limits suite.limit left =
      (result, spare, last)) :
    ReflTransGen process.step (.running suite left state)
      (.ended (verdict result) (suite.ran (suite.limit.toNat - spare) last.memory.statics) last.hookState
        last.memory.heap) := by
  induction left generalizing state with
  | zero =>
    cases ran
    exact .single rfl
  | succ left ih =>
    rw [State.run] at ran
    cases step : state.step suite.machine.program Recorder.hook suite.machine.limits with
    | running later =>
      rw [step] at ran
      have begun : (Execution.running suite (left + 1) state).next? = some (.running suite left later) := by
        rw [Execution.next?, step]
      exact .head begun (ih later ran)
    | halted result last =>
      rw [step] at ran
      cases ran
      refine .single ?_
      change Execution.next? _ = _
      rw [Execution.next?, step]

/-- The test suite performs its tests by its own process. -/
theorem process_performs : process.Performs TestSuite.executor := by
  intro test suite recorder heap
  obtain ⟨⟨program, limits, memory, steps⟩, tests⟩ := suite
  simp only [process, executor, run, Execution.begin]
  cases found : tests.find? (·.text = test) with
  | none => exact ⟨_, .refl, _, _, ⟨_, _, rfl⟩, rfl⟩
  | some method =>
    simp only [Machine.invoke]
    cases declared : program.method method with
    | error failure => exact ⟨_, .refl, _, _, ⟨_, _, rfl⟩, rfl⟩
    | ok target =>
      dsimp only
      cases entered : enterCall limits target [] [] with
      | error failure => exact ⟨_, .refl, _, _, ⟨_, _, rfl⟩, rfl⟩
      | ok frames =>
        dsimp only
        cases ran : State.run program Recorder.hook limits (limits.steps.getD 0xFFFFFFFFFFFFFFFF)
            (limits.steps.getD 0xFFFFFFFFFFFFFFFF).toNat ⟨frames, ⟨heap, .empty⟩, recorder⟩ with
        | mk result outcome =>
          obtain ⟨spare, last⟩ := outcome
          exact ⟨_, runs_state ⟨⟨program, limits, memory, steps⟩, tests⟩ _ _ ran, _, _, ⟨_, _, rfl⟩, rfl⟩

theorem Execution.begin_keeps (test : String) (suite : TestSuite) (recorder : Recorder) (heap : Heap) :
    (begin test suite recorder heap).recorder = recorder ∧ (begin test suite recorder heap).heap = heap := by
  unfold begin
  split
  · exact ⟨rfl, rfl⟩
  · split
    · exact ⟨rfl, rfl⟩
    · split <;> exact ⟨rfl, rfl⟩

/-- A run begins with fresh variables and without static fields. -/
theorem Execution.begin_owned (test : String) (recorder : Recorder) (heap : Heap)
    (rests : ∀ value, suite.Stores value → value.Within own) : (begin test suite recorder heap).Owned own := by
  unfold begin
  split
  · exact rests
  · rename_i method _
    split
    · exact fun _ none => by cases none
    · rename_i target declared
      split
      · exact fun _ none => by cases none
      · rename_i frames entered
        have entering : suite.machine.program.enter suite.machine.limits method [] = .ok frames := by
          simp only [Program.enter, declared]
          exact entered
        exact ⟨List.forall₂_same.1 (Program.enter_beside entering), fun _ none => by cases none⟩

/-- The next instruction of a run does what a step of its state does, or else the instructions have run out. -/
theorem Execution.next?_cases {suite : TestSuite} {left : Nat} {state : State Recorder}
    (next : (running suite left state).next? = some later) :
    (∃ result, later = .ended result (suite.ran suite.limit.toNat state.memory.statics) state.hookState
      state.memory.heap) ∨
      later.recorder = (state.step suite.machine.program Recorder.hook suite.machine.limits).hookState ∧
        later.heap = (state.step suite.machine.program Recorder.hook suite.machine.limits).memory.heap ∧
        ∀ own, (state.step suite.machine.program Recorder.hook suite.machine.limits).Owned suite.machine.program own →
          later.Owned own := by
  cases left with
  | zero =>
    cases next
    exact Or.inl ⟨_, rfl⟩
  | succ left =>
    rw [next?] at next
    cases step : state.step suite.machine.program Recorder.hook suite.machine.limits with
    | running after =>
      rw [step] at next
      cases next
      exact Or.inr ⟨rfl, rfl, fun _ => id⟩
    | halted result last =>
      rw [step] at next
      cases next
      exact Or.inr ⟨rfl, rfl, fun _ => id⟩

/-- The process of a suite touches the recorder by hook calls only. -/
theorem process_hooks : process.Hooks where
  recorder test suite recorder heap := (Execution.begin_keeps test suite recorder heap).1
  heap test suite recorder heap := (Execution.begin_keeps test suite recorder heap).2
  step run later next := by
    cases run with
    | ended => cases next
    | running suite left state =>
      rcases Execution.next?_cases next with ⟨_, rfl⟩ | ⟨recorder, _⟩
      · exact .refl _
      · have hooked : state.hookState.Hooked
            (State.advance (State.step suite.machine.program Recorder.hook suite.machine.limits) 1 state).hookState :=
          State.advance_hookState
            (fun point value recorder heap hooked => hooked.trans (Recorder.hooked_hook recorder point value heap))
            (.refl state.hookState)
        rw [State.advance_one] at hooked
        dsimp only [process]
        rw [recorder]
        exact hooked

/-- The process of a suite reaches only what the suite stores and what the run owns. -/
theorem process_confined :
    process.Confined (fun own suite => ∀ value, suite.Stores value → value.Within own) fun own run =>
    run.Owned own where
  toHooks := process_hooks
  grows rests more value stored := (rests value stored).mono more
  begins test recorder heap rests := Execution.begin_owned test recorder heap rests
  moves := by
    intro own kept run later next split apart owned
    cases run with
    | ended => cases next
    | running suite left state =>
      rcases Execution.next?_cases next with ⟨result, rfl⟩ | ⟨recorder, heap, becomes⟩
      · exact ⟨own, kept, split, .refl, apart, owned.statics⟩
      · obtain ⟨own', kept', parted, keeps, records, owned'⟩ :
            (state.step suite.machine.program Recorder.hook suite.machine.limits).Parts suite.machine.program
            own kept _ :=
          State.step_parts owned split apart
        dsimp only [process]
        rw [recorder, heap]
        exact ⟨own', kept', parted, keeps, records, becomes own' owned'⟩
  returns := by
    rintro own _ result suite ⟨recorder, heap, rfl⟩ _ owned
    exact owned

/-- An instruction lists nothing new but a copy of what it shows to the hook. -/
theorem Execution.next?_records {value : Value} (next : run.next? = some later)
    (recorded : later.recorder.Records value) :
    run.recorder.Records value ∨ ∃ suite left state point seen, run = .running suite (left + 1) state ∧
      state.Shows point seen ∧
      value = (state.memory.heap.copy seen).1 ∧ later.heap = (state.memory.heap.copy seen).2 := by
  match run, next with
  | .running _ 0 _, next =>
    cases next
    exact Or.inl recorded
  | .running suite (left + 1) state, next =>
    rcases Execution.next?_cases next with ⟨_, rfl⟩ | ⟨recorder, heap, _⟩
    · exact Or.inl recorded
    · rw [recorder] at recorded
      rcases State.step_records recorded with earlier | ⟨point, seen, shows, copied, left'⟩
      · exact Or.inl earlier
      · exact Or.inr ⟨suite, left, state, point, seen, rfl, shows, copied, heap.trans left'⟩

/-- A suite that was just loaded has nothing in its static fields. -/
theorem stores_of_load {modules : List Module} {testModule : String} {limits : Limits}
    (loaded : load modules testModule limits = .ok suite) (value : Value) : ¬ suite.Stores value := by
  unfold load at loaded
  cases linked : Program.link modules with
  | error failure => rw [linked] at loaded; cases loaded
  | ok program =>
    rw [linked] at loaded
    simp only [Except.mapError, bind, Except.bind] at loaded
    split at loaded <;> cases loaded
    exact List.not_mem_nil

end Process

end TestSuite

/-- The values that the program and the overrides have at hand. -/
def Moment.AtHand (moment : Moment TestSuite TestSuite.Execution) (value : Value) : Prop :=
  moment.stage.Holds (fun suite => suite.Stores value) (fun run => run.Has value) ∨
    (moment.stage.recorder TestSuite.process).Installs value

/-- Whether the program shows a value to the recorder on the way from one moment to the next. -/
def Moment.Shows (moment later : Moment TestSuite TestSuite.Execution) (seen : Value) : Prop :=
  moment.Next TestSuite.executor TestSuite.process later ∧
    ∃ suite left state point, moment.stage = .running (.running suite (left + 1) state) ∧ state.Shows point seen

/-- Whether a value was put on record on the way, and still has the content of what was shown, as it was then. -/
def Moment.Observed (start moment : Moment TestSuite TestSuite.Execution) (value : Value) : Prop :=
  ∃ before after seen, ReflTransGen (Moment.Next TestSuite.executor TestSuite.process) start before ∧
    before.Shows after seen ∧
    after.Records TestSuite.process value ∧
    ReflTransGen (Moment.Next TestSuite.executor TestSuite.process) after moment ∧
    Heap.SameContent (before.stage.heap TestSuite.process) seen (moment.stage.heap TestSuite.process) value

/-- Whether what a recorder lists shares no object with what it substitutes. -/
structure Recorder.Separate (recorder : Recorder) (heap : Heap) : Prop where
  records : ∀ value, recorder.Records value → heap.Holds value
  installs : ∀ value, recorder.Installs value → heap.Holds value
  apart : ∀ id, heap.Leads recorder.Installs id → ¬ heap.Leads recorder.Records id

theorem Recorder.separate_new (sites : SiteTable) (heap : Heap) : (new sites).Separate heap := by
  refine ⟨fun value listed =>
    absurd listed (not_records_new sites value), by rintro value ⟨_, ⟨⟩⟩, fun id _ reached => ?_⟩
  exact reached.within Heap.closed_none fun value listed => absurd listed (not_records_new sites value)

section Moments

variable {own kept : Nat → Prop} {start moment later : Moment TestSuite TestSuite.Execution} {value : Value}

/-- A moment at which records are apart from what the program and the overrides can lead to. -/
abbrev Moment.Separated (own kept : Nat → Prop) (moment : Moment TestSuite TestSuite.Execution) : Prop :=
  moment.Apart TestSuite.process (fun own suite => ∀ value, suite.Stores value → value.Within own)
    (fun own run => run.Owned own) own kept

theorem TestSuite.Execution.Owned.has {run : TestSuite.Execution} (owned : run.Owned own) (here : run.Has value) :
    value.Within own := by
  cases run with
  | running => exact State.Owned.has owned here
  | ended => exact owned value here

theorem Moment.Separated.atHand (h : moment.Separated own kept) (here : moment.AtHand value) : value.Within own := by
  obtain ⟨baseline, outcomes, task, stage⟩ := moment
  rcases here with here | installed
  · cases stage with
    | resting => exact h.executor value here
    | running => exact TestSuite.Execution.Owned.has h.executor here
  · exact h.installs value installed

/-- No object is led to from both sides. -/
theorem Moment.Separated.disjoint (h : moment.Separated own kept) {id : Nat}
    (recorded : (moment.stage.heap TestSuite.process).Leads (moment.Records TestSuite.process) id) :
    ¬ (moment.stage.heap TestSuite.process).Leads moment.AtHand id := fun reached =>
  h.split.apart id (reached.within h.split.ownClosed fun _ => h.atHand) (recorded.within h.split.keptClosed h.records)

/-- Whatever is kept was kept from the start or put on record on the way, and has kept its content since. -/
theorem Moment.Separated.origin (h : start.Separated own kept)
    (nexts : ReflTransGen (Moment.Next TestSuite.executor TestSuite.process) start moment)
    (recorded : moment.Records TestSuite.process value) :
    start.Records TestSuite.process value ∧
        Heap.SameContent (start.stage.heap TestSuite.process) value (moment.stage.heap TestSuite.process) value ∨
      start.Observed moment value := by
  induction nexts generalizing value with
  | refl =>
    have here : ReflTransGen (Moment.Next TestSuite.executor TestSuite.process) start start := .refl
    exact Or.inl ⟨recorded, h.sameContent TestSuite.process_confined here recorded⟩
  | @tail between last before next ih =>
    obtain ⟨own', kept', apart, _⟩ := h.nexts TestSuite.process_confined before
    have stays : between.Records TestSuite.process value → start.Records TestSuite.process value ∧
          Heap.SameContent (start.stage.heap TestSuite.process) value (last.stage.heap TestSuite.process) value ∨
        start.Observed last value := by
      intro already
      have onward := apart.sameContent TestSuite.process_confined (.single next) already
      rcases ih already with ⟨first, same⟩ | ⟨earlier, after, seen, toward, shows, listed, away, same⟩
      · exact Or.inl ⟨first, same.trans onward⟩
      · exact Or.inr ⟨earlier, after, seen, toward, shows, listed, away.tail next, same.trans onward⟩
    rcases next.keeps_records TestSuite.process_hooks recorded
      with already | ⟨run, run', running, running', step, listed⟩
    · exact stays already
    · rcases TestSuite.Execution.next?_records step listed
        with earlier | ⟨suite, left, state, point, seen, rfl, shows, copied, heap⟩
      · exact stays (Or.inl (running ▸ earlier))
      · obtain ⟨baseline, outcomes, task, stage⟩ := between
        obtain ⟨baseline', outcomes', task', stage'⟩ := last
        cases running
        cases running'
        have held : state.memory.heap.Holds seen :=
          apart.split.ownClosed.holds (State.Owned.shows apart.executor shows)
        have same := held.copy
        rw [← copied, ← heap] at same
        exact Or.inr ⟨_, _, seen, before, ⟨next, suite, left, state, point, rfl, shows⟩, recorded, .refl, same⟩

end Moments

namespace Localizer

/-- A localizer that has done nothing yet, over a suite that has stored nothing. -/
theorem separated_moment {suite : TestSuite} (fresh : ∀ value, ¬ suite.Stores value) {recorder : Recorder}
    {heap : Heap} (separate : recorder.Separate heap) (selected : String → Bool)
    (baseline : Option Baseline) :
    (moment ⟨⟨suite, recorder, heap⟩, selected, baseline⟩ []).Separated (heap.Leads recorder.Installs)
      (heap.Leads recorder.Records) := by
  refine ⟨⟨Heap.closed_leads separate.installs, Heap.closed_leads separate.records, separate.apart⟩, ?_,
    fun _ => Heap.within_leads, fun value stored => absurd stored (fresh value)⟩
  rintro value (listed | none | ⟨_, none, _⟩)
  · exact Heap.within_leads listed
  · exact none.elim
  · cases none

/-- Whatever is asked of a localizer over a suite: at no moment does anything that is kept lead to an object
that the running program or an override leads to, and everything that is kept has the content with which it
was shown. -/
theorem records_separated {modules : List Module} {testModule : String} {limits : Limits} {suite : TestSuite}
    (loaded : TestSuite.load modules testModule limits = .ok suite) {recorder : Recorder} {heap : Heap}
    (separate : recorder.Separate heap) (selected : String → Bool) :
    let localizer : Localizer TestSuite := ⟨⟨suite, recorder, heap⟩, selected, none⟩
    (∀ calls, ReflTransGen (Moment.Next TestSuite.executor TestSuite.process) (localizer.moment [])
      ((localizer.performAll TestSuite.executor calls).moment (localizer.findsAll TestSuite.executor calls))) ∧
    ∀ moment, ReflTransGen (Moment.Next TestSuite.executor TestSuite.process) (localizer.moment []) moment →
      (∀ id, (moment.stage.heap TestSuite.process).Leads (moment.Records TestSuite.process) id →
        ¬ (moment.stage.heap TestSuite.process).Leads moment.AtHand id) ∧
      ∀ value, moment.Records TestSuite.process value →
        recorder.Records value ∧ Heap.SameContent heap value (moment.stage.heap TestSuite.process) value ∨
          (localizer.moment []).Observed moment value := by
  have start := separated_moment (TestSuite.stores_of_load loaded) separate selected none
  refine ⟨fun calls => nexts_performAll TestSuite.process_performs TestSuite.process_hooks _ calls [],
    fun moment nexts => ?_⟩
  obtain ⟨own, kept, apart, _⟩ := start.nexts TestSuite.process_confined nexts
  refine ⟨fun id => Moment.Separated.disjoint apart, fun value recorded => ?_⟩
  rcases start.origin nexts recorded with ⟨listed | none | ⟨_, none, _⟩, same⟩ | observed
  · exact Or.inl ⟨listed, same⟩
  · exact none.elim
  · cases none
  · exact Or.inr observed

/-- A test that shows a new cell to the hook, keeps the answer in a static field and fails. -/
def cellTest (name : String) : Method :=
  { owner := "Tests", name, isStatic := true, params := [], locals := [], returns := none, attributes := ["Test"]
    body := some #[⟨.newObject "Cell", none⟩, ⟨.loadString "tests", none⟩, ⟨.loadInt32 3, none⟩, ⟨.loadInt32 3, none⟩,
      ⟨.loadInt32 5, none⟩, ⟨.loadInt32 9, none⟩, ⟨.loadInt64 7, none⟩, ⟨.callHook (.object "Cell"), none⟩,
      ⟨.storeStaticField ⟨"Cell", "last"⟩, none⟩, ⟨.loadString "kept", none⟩, ⟨.throw, none⟩] }

def cellModule : Module :=
  { name := "Cells", optimized := false, debugInfo := .full, metadata := .empty
    classes := [⟨"Cell", [⟨"mark", .int32, false⟩, ⟨"last", .object "Cell", true⟩]⟩]
    sites := [⟨7, .object "Cell", ⟨"tests", 3, 3, 5, 9⟩, "Tests::cell"⟩], methods :=
      [cellTest "first", cellTest "second"] }

/-- Two tests that leave the cell they show in a static field. -/
theorem records_separated_kept : ∃ suite, TestSuite.load [cellModule] "Cells" { steps := some 50 } = .ok suite ∧
    (Recorder.new suite.sites).Separate .empty ∧ ∃ start recorded later : Localizer TestSuite,
      start = ⟨⟨suite, .new suite.sites, .empty⟩, fun _ => true, none⟩ ∧
      start.recordBaseline TestSuite.executor =
      ([("Tests::first", .fail "kept"), ("Tests::second", .fail "kept")], recorded) ∧
      recorded.session.recorder.profiles.values.map (·.latest.length) = [1, 1] ∧
      later = start.performAll TestSuite.executor [.recordBaseline, .search] ∧
      ∃ found, (∀ id, later.session.heap.Leads ((later.moment found).Records TestSuite.process) id →
          ¬ later.session.heap.Leads (later.moment found).AtHand id) ∧
        ∀ value, later.session.recorder.Records value → (start.moment []).Observed (later.moment found) value := by
  obtain ⟨suite, recorded, loaded, failing, listed⟩ : ∃ suite recorded,
      TestSuite.load [cellModule] "Cells" { steps := some 50 } = .ok suite ∧
      (⟨⟨suite, .new suite.sites, .empty⟩, fun _ => true, none⟩ : Localizer TestSuite).recordBaseline
      TestSuite.executor =
        ([("Tests::first", .fail "kept"), ("Tests::second", .fail "kept")], recorded) ∧
      recorded.session.recorder.profiles.values.map (·.latest.length) = [1, 1] :=
    ⟨_, _, rfl, rfl, rfl⟩
  have separate := Recorder.separate_new suite.sites .empty
  obtain ⟨goes, apart⟩ := records_separated loaded separate fun _ => true
  obtain ⟨disjoint, origins⟩ := apart _ (goes [.recordBaseline, .search])
  refine ⟨suite, loaded, separate, _, recorded, _, rfl, failing, listed, rfl, _, disjoint, fun value listed => ?_⟩
  rcases origins value (Or.inl listed) with ⟨first, _⟩ | observed
  · exact absurd first (Recorder.not_records_new _ value)
  · exact observed

end Localizer

end Faultline
