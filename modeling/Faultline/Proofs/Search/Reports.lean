import Mathlib.Algebra.Order.BigOperators.Group.List
import Mathlib.Algebra.Order.Group.Nat
import Faultline.Proofs.Search.Ranking
import Faultline.Proofs.Search.Showings
import Faultline.Search.Report

namespace Faultline

section Tables

variable {known : List Site} {id : UInt32} {site : Site}

/-- A site is kept under its own number. -/
theorem SiteTable.id_of_get?_ofSites (found : (SiteTable.ofSites known).get? id = some site) : site.id = id := by
  obtain ⟨declared, _, same⟩ := List.mem_map.1 (Table.mem_ofList (Table.mem_of_get? found))
  cases same
  rfl

theorem sum_map_eq_count {β : Type} [DecidableEq β] (key : β) (keys : List β) :
    (keys.map fun k => if k = key then 1 else 0).sum = keys.count key := by
  induction keys with
  | nil => rfl
  | cons k keys ih => simp only [List.map_cons, List.sum_cons, ih, List.count_cons, Nat.add_comm, beq_iff_eq]

/-- Each item is counted at most once. -/
theorem sum_countP_le {α β : Type} [DecidableEq β] {keys : List β} (once : keys.Nodup) (key : α → β)
    (items : List α) :
    (keys.map fun k => items.countP (key · = k)).sum ≤ items.length := by
  induction items with
  | nil => simp
  | cons item items ih =>
    have here := List.nodup_iff_count_le_one.1 once (key item)
    rw [← sum_map_eq_count] at here
    simp only [List.countP_cons, decide_eq_true_eq, List.sum_map_add, List.length_cons, eq_comm (a := key item)]
    omega

end Tables

variable {ε κ : Type}

/-- Whether an executor reaches the recorder only by hook calls. -/
def Executor.Hooks (executor : Executor ε) : Prop :=
  ∀ test state recorder heap, Recorder.Hooked recorder (executor.run Recorder.hook test state recorder heap).2.2.1

theorem Process.Performs.hooks {executor : Executor ε} {process : Process ε κ} (performs : process.Performs executor)
    (hooks : process.Hooks) : executor.Hooks := by
  intro test state recorder heap
  obtain ⟨run, steps, result, after, _, ran⟩ := performs test state recorder heap
  have hooked := hooks.hooked steps
  rw [hooks.recorder] at hooked
  rwa [ran]

theorem TestSuite.executor_hooks : TestSuite.executor.Hooks :=
  TestSuite.process_performs.hooks TestSuite.process_hooks

/-- The figures of findings, where tests are tried at sites of a table: a trial leaves at most one thing behind. -/
structure Findings.Accounts (table : SiteTable) (tests : List String) (found : Findings) : Prop where
  counted : found.candidates.length + found.undecided.length ≤ found.trials
  tested : ∀ candidate ∈ found.candidates, candidate.test ∈ tests
  known : ∀ candidate ∈ found.candidates, (table.get? candidate.site).isSome

namespace Findings.Accounts

variable {table : SiteTable} {tests : List String} {found more : Findings}

theorem empty : Findings.empty.Accounts table tests := ⟨Nat.le_refl 0, nofun, nofun⟩

/-- Two findings that account for their trials do so together. -/
theorem append (accounts : found.Accounts table tests) (further : more.Accounts table tests) :
    (found ++ more).Accounts table tests := by
  change (Findings.append found more).Accounts table tests
  refine ⟨?_, fun candidate member => ?_, fun candidate member => ?_⟩
  · have here := accounts.counted
    have there := further.counted
    simp only [Findings.append, List.length_append]
    omega
  · exact (List.mem_append.1 member).elim (accounts.tested candidate) (further.tested candidate)
  · exact (List.mem_append.1 member).elim (accounts.known candidate) (further.known candidate)

/-- One trial accounts for itself, whatever its result. -/
theorem finding {subject : Subject} (listed : subject.test ∈ tests) (known : (table.get? subject.site).isSome)
    (alternate : Value) (result : TestResult) : (subject.finding alternate result).Accounts table tests := by
  cases result with
  | pass =>
    refine ⟨Nat.le_refl 1, fun candidate member => ?_, fun candidate member => ?_⟩ <;>
      cases List.mem_singleton.1 member
    · exact listed
    · exact known
  | fail => exact ⟨Nat.zero_le 1, nofun, nofun⟩
  | inconclusive => exact ⟨Nat.le_refl 1, nofun, nofun⟩

end Findings.Accounts

namespace Session

variable {executor : Executor ε} {tests : List String}

theorem sites_run (hooks : executor.Hooks) (session : Session ε) (test : String) :
    (session.run executor test).2.recorder.sites = session.recorder.sites :=
  (hooks ..).sites.trans (Recorder.since_beginTest ..).sites

theorem sites_runAll (hooks : executor.Hooks) (tests : List String) (session : Session ε) :
    (runAll executor tests session).2.recorder.sites = session.recorder.sites := by
  induction tests generalizing session with
  | nil => rfl
  | cons test rest ih => exact (ih _).trans (session.sites_run hooks test)

theorem sites_trial (hooks : executor.Hooks) (session : Session ε) (site : UInt32) (test : String)
    (alternate : Value) :
    (session.trial executor site test alternate).2.recorder.sites = session.recorder.sites := by
  by_cases takes : session.recorder.sites.Takes site alternate
  · rw [trial_of_takes executor takes]
    exact (session.substitute site alternate).sites_run hooks test
  · rw [trial_of_not_takes executor takes]

/-- A localizer's calls to an executor leave the sites as they are, and every trial is accounted for. -/
structure Accounted (table : SiteTable) (tests : List String) (ran : Findings × Session ε) : Prop where
  accounts : ran.1.Accounts table tests
  sites : ran.2.recorder.sites = table

theorem Accounted.append {table : SiteTable} {ran later : Findings × Session ε} (first : Accounted table tests ran)
    (second : Accounted table tests later) : Accounted table tests (ran.1 ++ later.1, later.2) :=
  ⟨first.accounts.append second.accounts, second.sites⟩

/-- The trials of one subject, one for each value of its pool. -/
theorem accounted_tryAlternates (hooks : executor.Hooks) (subject : Subject) (listed : subject.test ∈ tests)
    (pool : List Value) (session : Session ε) (known : (session.recorder.sites.get? subject.site).isSome) :
    Accounted session.recorder.sites tests
      (session.tryAlternates executor subject.test subject.site subject.replaced pool) := by
  induction pool generalizing session with
  | nil => exact ⟨.empty, rfl⟩
  | cons alternate pool ih =>
    rw [tryAlternates_cons]
    have sites := session.sites_trial hooks subject.site subject.test alternate
    generalize session.trial executor subject.site subject.test alternate = ran at sites ⊢
    rw [← sites] at known ⊢
    have here : Accounted ran.2.recorder.sites tests (subject.finding alternate ran.1, ran.2) :=
      ⟨.finding listed known _ _, rfl⟩
    cases ran.1.isPass with
    | true => exact here.append ⟨.empty, rfl⟩
    | false => exact here.append (ih ran.2 known)

/-- The trials of one failing test. -/
theorem accounted_trySites (hooks : executor.Hooks) (profiles : List Profile) {profile : Profile}
    (listed : profile.test ∈ tests) (sites : List UInt32) (session : Session ε) :
    Accounted session.recorder.sites tests (session.trySites executor profiles profile sites) := by
  induction sites generalizing session with
  | nil => exact ⟨.empty, rfl⟩
  | cons site rest ih =>
    unfold trySites
    split
    · rename_i first declared _ known
      have here := accounted_tryAlternates hooks ⟨profile.test, site, first.value, []⟩ listed
        (alternateValues profiles site declared.type first.value) session (known ▸ rfl)
      exact here.append (here.sites ▸ ih _)
    · exact ih session

/-- The trials of all failing tests. -/
theorem accounted_tryTests (hooks : executor.Hooks) (profiles : List Profile) (rest : List String)
    (listed : rest ⊆ tests) (session : Session ε) :
    Accounted session.recorder.sites tests (session.tryTests executor profiles rest) := by
  induction rest generalizing session with
  | nil => exact ⟨.empty, rfl⟩
  | cons test rest ih =>
    obtain ⟨here, later⟩ := List.cons_subset.1 listed
    unfold tryTests
    split
    · exact ih later session
    · rename_i profile stored
      have named : profile.test = test := by simpa using List.find?_some stored
      have tried := accounted_trySites hooks profiles (named ▸ here) profile.sites session
      exact tried.append (tried.sites ▸ ih later _)

theorem accounted_search (hooks : executor.Hooks) (baseline : Baseline) (session : Session ε) :
    Accounted session.recorder.sites baseline.failing (session.search executor baseline) :=
  have tried := accounted_tryTests hooks (session.baselineProfiles baseline) baseline.failing (List.Subset.refl _)
    (session.inMode .replay)
  ⟨tried.accounts, tried.sites⟩

end Session

/-- An entry of a report on a baseline: different tests, each of which failed, and their number. -/
structure ReportEntry.Consistent (baseline : Baseline) (report : Report) (entry : ReportEntry) : Prop where
  once : entry.tests.Nodup
  failed : ∀ test ∈ entry.tests, ∃ reason, (test, .fail reason) ∈ baseline
  count : entry.fixedFailingTests = entry.tests.length
  positive : 1 ≤ entry.fixedFailingTests
  bounded : entry.fixedFailingTests ≤ report.failingTests

/-- A report whose figures agree with each other and with what was found. -/
structure Report.Consistent (baseline : Baseline) (found : Findings) (report : Report) : Prop where
  entries : ∀ entry ∈ report.entries, entry.Consistent baseline report
  failing : report.failingTests ≤ report.totalTests
  trials : (report.entries.map (·.fixedFailingTests)).sum + report.inconclusiveTrials ≤ report.trials
  /-- No site has two entries. -/
  sites : (report.entries.map (·.site)).Nodup
  /-- Every site with a candidate has an entry. -/
  covers : ∀ candidate ∈ found.candidates, ∃ entry ∈ report.entries, entry.site = candidate.site ∧
    candidate.test ∈ entry.tests

section Ranked

variable {baseline : Baseline} {found : Findings} {lookup : UInt32 → Option Site}
  {numbered : List (UInt32 × RankedSite)}

/-- A test is failing when the baseline lists it with a failure. -/
theorem Baseline.mem_failing {test : String} :
    test ∈ baseline.failing ↔ ∃ reason, (test, .fail reason) ∈ baseline := by
  simp only [failing, List.mem_map, List.mem_filter, Prod.exists]
  constructor
  · rintro ⟨_, result, ⟨listed, failed⟩, rfl⟩
    cases result with
    | fail reason => exact ⟨reason, listed⟩
    | _ => cases failed
  · rintro ⟨reason, listed⟩
    exact ⟨test, _, ⟨listed, rfl⟩, rfl⟩

theorem length_testsFixed_le (candidates : List Candidate) (site : UInt32) :
    (testsFixed candidates site).length ≤ candidates.countP (·.site = site) := by
  refine (length_eraseDups_le _).trans ?_
  rw [List.length_map, List.countP_eq_length_filter]

theorem Ranks.sites (ranks : Ranks found.candidates lookup numbered)
    (keyed : ∀ id site, lookup id = some site → site.id = id) :
    ∀ ranked ∈ numbered, ranked.2.site.id = ranked.1 :=
  fun ranked listed => keyed _ _ (ranks.entry ranked listed).1

/-- Entries count each candidate at most once. -/
theorem Ranks.sum_le (ranks : Ranks found.candidates lookup numbered) :
    (numbered.map (·.2.fixedTests.length)).sum ≤ found.candidates.length := by
  refine le_trans ?_ (sum_countP_le ranks.once (·.site) found.candidates)
  rw [List.map_map]
  refine List.sum_le_sum fun ranked listed => ?_
  change ranked.2.fixedTests.length ≤ _
  rw [(ranks.entry ranked listed).2]
  exact length_testsFixed_le ..

/-- A ranked site has a consistent entry: its score, its tests and its numbers are those of the findings. -/
theorem Ranks.entryConsistent (ranks : Ranks found.candidates lookup numbered) {table : SiteTable}
    (accounts : found.Accounts table baseline.failing) {ranked : UInt32 × RankedSite} (listed : ranked ∈ numbered)
    {report : Report} (counts : report.failingTests = baseline.failing.length) :
    ranked.2.entry.Consistent baseline report := by
  have tests : ranked.2.fixedTests = testsFixed found.candidates ranked.1 := (ranks.entry ranked listed).2
  have once : ranked.2.fixedTests.Nodup := tests ▸ nodup_testsFixed ..
  have failing : ranked.2.fixedTests ⊆ baseline.failing := by
    intro test fixed
    rw [tests, mem_testsFixed] at fixed
    obtain ⟨candidate, member, same⟩ := List.mem_map.1 fixed
    exact (Prod.mk.inj same).2 ▸ accounts.tested candidate member
  refine ⟨once, fun test fixed => Baseline.mem_failing.1 (failing fixed), rfl, ?_, ?_⟩
  · obtain ⟨candidate, member, here⟩ := List.mem_map.1 ((ranks.listed ranked.1).1 (List.mem_map_of_mem listed)).1
    have fixed : candidate.test ∈ ranked.2.fixedTests := by
      rw [tests, mem_testsFixed, ← here]
      exact List.mem_map_of_mem member
    exact List.length_pos_of_mem fixed
  · rw [counts]
    exact once.length_le_of_subset failing

end Ranked

/-- A report on findings that account for their trials is consistent: no count exceeds what it is a part of,
the totals are sums of the entries, and the numbers are those of the site table. -/
theorem Report.consistent_of_accounts {baseline : Baseline} {found : Findings} {known : List Site}
    (accounts : found.Accounts (.ofSites known) baseline.failing) :
    (Report.make baseline found (rank found.candidates (SiteTable.ofSites known).get?)).Consistent
      baseline found := by
  have ranks := ranks_numberedRanking found.candidates (SiteTable.ofSites known).get?
  have keyed := ranks.sites fun _ _ => SiteTable.id_of_get?_ofSites
  rw [rank_eq]
  generalize numberedRanking found.candidates (SiteTable.ofSites known).get? = numbered at ranks keyed ⊢
  have listed : ∀ entry, entry ∈ (Report.make baseline found (numbered.map (·.2))).entries ↔
      ∃ ranked ∈ numbered, ranked.2.entry = entry := by
    simp [Report.make]
  constructor
  case entries =>
    intro entry member
    obtain ⟨ranked, here, rfl⟩ := (listed entry).1 member
    exact ranks.entryConsistent accounts here rfl
  case failing =>
    simp only [Report.make, Baseline.failing, List.length_map]
    exact List.length_filter_le ..
  case trials =>
    have bounded := ranks.sum_le
    have counted := accounts.counted
    have sum : ((Report.make baseline found (numbered.map (·.2))).entries.map (·.fixedFailingTests)).sum =
        (numbered.map (·.2.fixedTests.length)).sum := by
      simp only [Report.make, List.map_map]
      rfl
    simp only [Report.make] at sum ⊢
    omega
  case sites =>
    have numbers : (Report.make baseline found (numbered.map (·.2))).entries.map (·.site) = numbered.map (·.1) := by
      simp only [Report.make, List.map_map]
      exact List.map_congr_left keyed
    exact numbers ▸ ranks.once
  case covers =>
    intro candidate member
    have known := (ranks.listed candidate.site).2 ⟨List.mem_map_of_mem member, accounts.known candidate member⟩
    obtain ⟨ranked, here, number⟩ := List.mem_map.1 known
    refine ⟨_, (listed _).2 ⟨ranked, here, rfl⟩, (keyed ranked here).trans number, ?_⟩
    change candidate.test ∈ ranked.2.fixedTests
    rw [(ranks.entry ranked here).2, mem_testsFixed, number]
    exact List.mem_map_of_mem member

namespace Localizer

/-- The report of a search that follows a baseline is consistent: whatever the executor answers, and also
where it lists a test more than once. -/
theorem report_consistent {executor : Executor ε} (hooks : executor.Hooks) {localizer ready : Localizer ε}
    {known : List Site} (table : localizer.session.recorder.sites = .ofSites known) {baseline : Baseline}
    (recorded : localizer.recordBaseline executor = (baseline, ready)) :
    ∃ found done, ready.search executor = .ok ((baseline, found), done) ∧
      (Report.make baseline found (done.rank found)).Consistent baseline found := by
  have sites : ready.session.recorder.sites = .ofSites known := by
    cases recorded
    exact (Session.sites_runAll hooks ..).trans table
  have held : ready.baseline = some baseline := by
    cases recorded
    rfl
  have accounted := Session.accounted_search hooks baseline ready.session
  rw [sites] at accounted
  refine ⟨_, _, search_of_baseline executor held, ?_⟩
  rw [rank, accounted.sites]
  exact Report.consistent_of_accounts accounted.accounts

/-- Lists a test twice. Each test shows its number to the hook and fails where the answer is zero. -/
def repeatingExecutor : Executor Unit where
  tests _ := ["one", "zero", "zero"]
  run hook test _ state heap :=
    match hook ⟨7, .int32, ⟨"tests", 3, 3, 5, 9⟩⟩ (.int32 (if test = "one" then 1 else 0)) state heap with
    | (.ok (.int32 0), state, heap) => (.fail "zero", (), state, heap)
    | (_, state, heap) => (.pass, (), state, heap)

theorem hooks_repeatingExecutor : repeatingExecutor.Hooks := by
  intro test state recorder heap
  have hooked := Recorder.hooked_hook recorder ⟨7, .int32, ⟨"tests", 3, 3, 5, 9⟩⟩
    (.int32 (if test = "one" then 1 else 0)) heap
  unfold repeatingExecutor
  dsimp only
  split <;> rename_i called <;> rw [called] at hooked <;> exact hooked

def repeatingLocalizer : Localizer Unit :=
  ⟨⟨(), .new (.ofSites [⟨7, .int32, ⟨"tests", 3, 3, 5, 9⟩, "Tests::check"⟩]), .empty⟩, fun _ => true, none⟩

def repeatingBaseline : Baseline := [("one", .pass), ("zero", .fail "zero"), ("zero", .fail "zero")]

/-- A failing test that is listed twice: two candidates for one test at one site. -/
theorem report_consistent_repeated : ∃ ready found done,
    repeatingLocalizer.recordBaseline repeatingExecutor = (repeatingBaseline, ready) ∧
    ready.search repeatingExecutor = .ok ((repeatingBaseline, found), done) ∧ found.candidates.length = 2 ∧
    found.trials = 2 ∧
    (Report.make repeatingBaseline found (done.rank found)).entries =
      [⟨"tests", 3, 3, 5, 9, 1, 7, "Tests::check", ["zero"]⟩] ∧
    (Report.make repeatingBaseline found (done.rank found)).Consistent repeatingBaseline found := by
  obtain ⟨ready, found, done, recorded, searched, candidates, trials, entries⟩ : ∃ ready found done,
      repeatingLocalizer.recordBaseline repeatingExecutor = (repeatingBaseline, ready) ∧
      ready.search repeatingExecutor = .ok ((repeatingBaseline, found), done) ∧ found.candidates.length = 2 ∧
      found.trials = 2 ∧
      (Report.make repeatingBaseline found (done.rank found)).entries =
      [⟨"tests", 3, 3, 5, 9, 1, 7, "Tests::check", ["zero"]⟩] :=
    ⟨_, _, _, rfl, rfl, rfl, rfl, by cbv⟩
  obtain ⟨found', done', searched', consistent⟩ := report_consistent hooks_repeatingExecutor rfl recorded
  rw [searched] at searched'
  cases searched'
  exact ⟨ready, found, done, recorded, searched, candidates, trials, entries, consistent⟩

end Localizer

end Faultline
