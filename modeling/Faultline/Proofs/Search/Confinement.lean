import Faultline.Proofs.Search.Moments

namespace Faultline

open Relation (ReflTransGen)

/-- The values that findings consist of. -/
inductive Findings.Mentions (found : Findings) : Value → Prop
  | replaced {candidate : Candidate} (listed : candidate ∈ found.candidates) : found.Mentions candidate.replaced
  | alternate {candidate : Candidate} (listed : candidate ∈ found.candidates) : found.Mentions candidate.alternate
  | undecided {trial : UndecidedTrial} (listed : trial ∈ found.undecided) : found.Mentions trial.alternate

/-- The values that a search has found, replaces or is still to try. -/
def Task.Mentions (value : Value) : Task → Prop
  | .idle | .recording .. => False
  | .searching found subjects =>
    found.Mentions value ∨ ∃ subject ∈ subjects, value = subject.replaced ∨ value ∈ subject.pool

section Mentions

variable {found more : Findings} {value : Value}

theorem Findings.not_mentions_empty : ¬ Findings.empty.Mentions value := by
  rintro (listed | listed | listed) <;> cases listed

theorem Findings.Mentions.of_append (mentioned : (found ++ more).Mentions value) :
    found.Mentions value ∨ more.Mentions value := by
  rcases mentioned with listed | listed | listed
  · exact (List.mem_append.1 listed).imp .replaced .replaced
  · exact (List.mem_append.1 listed).imp .alternate .alternate
  · exact (List.mem_append.1 listed).imp .undecided .undecided

/-- A trial is of a value from the pool, which takes the place of the one that was seen first. -/
theorem Subject.mentions_finding {subject : Subject} {alternate : Value} {result : TestResult}
    (mentioned : (subject.finding alternate result).Mentions value) :
    value = subject.replaced ∨ value = alternate := by
  cases result with
  | pass =>
    rcases mentioned with listed | listed | listed
    · rw [List.mem_singleton.1 listed]
      exact Or.inl rfl
    · rw [List.mem_singleton.1 listed]
      exact Or.inr rfl
    · cases listed
  | fail reason => rcases mentioned with listed | listed | listed <;> cases listed
  | inconclusive reason =>
    rcases mentioned with listed | listed | listed
    · cases listed
    · cases listed
    · rw [List.mem_singleton.1 listed]
      exact Or.inr rfl

/-- After a trial, nothing is found or left to try that was not there before. -/
theorem Task.Mentions.of_judged {subject : Subject} {rest : List Subject} {alternate : Value}
    {pool left : List Value} {result : TestResult} (pooled : subject.pool = alternate :: pool)
    (fewer : ∀ value ∈ left, value ∈ pool)
    (mentioned : (Task.searching (found ++ subject.finding alternate result)
      ({ subject with pool := left } :: rest)).Mentions value) :
    (Task.searching found (subject :: rest)).Mentions value := by
  rcases mentioned with mentioned | ⟨other, listed, among⟩
  · rcases mentioned.of_append with earlier | new
    · exact Or.inl earlier
    · refine Or.inr ⟨subject, List.mem_cons_self .., (Subject.mentions_finding new).imp id ?_⟩
      rintro rfl
      rw [pooled]
      exact List.mem_cons_self ..
  · rcases List.mem_cons.1 listed with rfl | later
    · refine Or.inr ⟨subject, List.mem_cons_self .., among.imp id fun pooledLeft => ?_⟩
      rw [pooled]
      exact List.mem_cons_of_mem _ (fewer value pooledLeft)
    · exact Or.inr ⟨other, List.mem_cons_of_mem _ later, among⟩

/-- Whatever is tried or replaced has been seen. -/
theorem SiteTable.mentions_subjects {table : SiteTable} {profiles : List Profile} {tests : List String}
    {subject : Subject} (listed : subject ∈ table.subjects profiles tests)
    (mentioned : value = subject.replaced ∨ value ∈ subject.pool) :
    ∃ profile ∈ profiles, ∃ observation ∈ profile.latest, observation.value = value := by
  simp only [subjects, List.mem_flatMap, Option.mem_toList, List.mem_filterMap] at listed
  obtain ⟨test, _, profile, found, site, _, made⟩ := listed
  unfold subject? at made
  split at made
  · rename_i first known seen _
    cases made
    rcases mentioned with rfl | pooled
    · exact ⟨profile, List.mem_of_find?_eq_some found, first,
        List.mem_reverse.1 (List.mem_of_find?_eq_some seen), rfl⟩
    · exact (mem_alternateValues pooled).2
  · cases made

variable {ε : Type}

theorem Session.records_baselineProfiles {session : Session ε} {baseline : Baseline} {profile : Profile}
    (member : profile ∈ session.baselineProfiles baseline) {observation : Observation}
    (listed : observation ∈ profile.latest) :
    session.recorder.Records observation.value := by
  obtain ⟨entry, _, stored⟩ := List.mem_filterMap.1 member
  exact ⟨observation, .recorded stored (List.mem_reverse.2 listed), rfl⟩

end Mentions

variable {ε κ : Type}

/-- The values that a localizer keeps: what its recorder lists, what its search is about, and what its
searches have found. -/
def Moment.Records (process : Process ε κ) (moment : Moment ε κ) (value : Value) : Prop :=
  (moment.stage.recorder process).Records value ∨ moment.task.Mentions value ∨ ∃ found ∈ moment.outcomes,
    found.Mentions value

/-- What holds of an executor's state between runs holds of a run of it. -/
def Stage.Holds (rests : ε → Prop) (holds : κ → Prop) : Stage ε κ → Prop
  | resting session => rests session.state
  | running run => holds run

/-- Whether the runs of a process can come by nothing that is kept from them. `rests` and `holds` say of a
state and of a run that it has hold of no object but those of a set. -/
structure Process.Confined (process : Process ε κ) (rests : (Nat → Prop) → ε → Prop)
    (holds : (Nat → Prop) → κ → Prop) : Prop
    extends process.Hooks where
  grows : ∀ {own own' : Nat → Prop} {state : ε}, rests own state → (∀ id, own id → own' id) → rests own' state
  begins : ∀ {own : Nat → Prop} {state : ε} (test : String) (recorder : Recorder) (heap : Heap), rests own state →
    holds own (process.start test state recorder heap)
  moves : ∀ {own kept : Nat → Prop} {run later : κ}, process.step run later → (process.heap run).Split own kept →
    (process.recorder run).Apart own kept → holds own run → ∃ own' kept', (process.heap later).Split own' kept' ∧
      (process.heap run).Keeps own kept (process.heap later) own' kept' ∧
      (process.recorder later).Apart own' kept' ∧ holds own' later
  returns : ∀ {own : Nat → Prop} {run : κ} {result : TestResult} {state : ε}, process.ends run result state →
    (process.heap run).Closed own → holds own run → rests own state

/-- A moment at which what a localizer keeps is apart from what the executor and the override can lead to. -/
structure Moment.Apart (process : Process ε κ) (rests : (Nat → Prop) → ε → Prop) (holds : (Nat → Prop) → κ → Prop)
    (own kept : Nat → Prop) (moment : Moment ε κ) : Prop where
  split : (moment.stage.heap process).Split own kept
  records : ∀ value, moment.Records process value → value.Within kept
  installs : ∀ value, (moment.stage.recorder process).Installs value → value.Within own
  executor : moment.stage.Holds (rests own) (holds own)

section Confinement

variable {process : Process ε κ} {rests : (Nat → Prop) → ε → Prop} {holds : (Nat → Prop) → κ → Prop}
  {own kept : Nat → Prop} {moment later : Moment ε κ} {value : Value}

/-- Nothing is ever kept that was not kept before, but for what a step of a run adds to the recorder. -/
theorem Moment.Work.records (hooks : process.Hooks) (work : moment.Work process later)
    (recorded : later.Records process value) :
    moment.Records process value ∨ ∃ run run', moment.stage = .running run ∧ later.stage = .running run' ∧
      process.step run run' ∧
      (process.recorder run').Records value := by
  rcases recorded with listed | mentioned | emitted
  · cases work with
    | begins =>
      rw [Stage.recorder, hooks.recorder] at listed
      exact Or.inl (Or.inl listed.of_beginTest)
    | runs step => exact Or.inr ⟨_, _, rfl, rfl, step, listed⟩
    | tries _ fits =>
      rw [Stage.recorder, hooks.recorder] at listed
      cases Recorder.eq_of_install fits
      exact Or.inl (Or.inl (listed.of_beginTest.of_same rfl rfl))
    | _ => exact Or.inl (Or.inl (listed.of_same rfl rfl))
  · refine Or.inl (Or.inr (Or.inl ?_))
    cases work with
    | exhausted =>
      exact mentioned.imp id fun ⟨subject, listed, among⟩ => ⟨subject, List.mem_cons_of_mem _ listed, among⟩
    | refused pooled => exact mentioned.of_judged pooled fun _ => id
    | judges pooled =>
      refine mentioned.of_judged pooled fun value left => ?_
      split at left
      · cases left
      · exact left
    | begins | runs | tries => exact mentioned
    | returns | recorded | searched => exact mentioned.elim
  · cases work with
    | searched =>
      obtain ⟨found, emitted, mentioned⟩ := emitted
      rcases List.mem_append.1 emitted with earlier | last
      · exact Or.inl (Or.inr (Or.inr ⟨found, earlier, mentioned⟩))
      · exact Or.inl (Or.inr (Or.inl (Or.inl (List.mem_singleton.1 last ▸ mentioned))))
    | _ => exact Or.inl (Or.inr (Or.inr emitted))

/-- The executor can be given a copy of a value that is to be tried. -/
theorem Moment.Apart.give (confined : process.Confined rests holds) {baseline : Option Baseline}
    {outcomes : List Findings} {found : Findings} {subject : Subject} {rest : List Subject}
    {session : Session ε} {alternate : Value} {pool : List Value}
    (h : (⟨baseline, outcomes, .searching found (subject :: rest), .resting session⟩ : Moment ε κ).Apart
      process rests holds own kept)
    (pooled : subject.pool = alternate :: pool) : ∃ own', (session.heap.copy alternate).2.Split own' kept ∧
      session.heap.Keeps own kept (session.heap.copy alternate).2 own' kept ∧
      (session.heap.copy alternate).1.Within own' ∧
      rests own' session.state := by
  have pool : Task.Mentions alternate (.searching found (subject :: rest)) :=
    Or.inr ⟨subject, List.mem_cons_self .., Or.inr (pooled ▸ List.mem_cons_self ..)⟩
  obtain ⟨split, keeps, copied⟩ := h.split.give (h.records alternate (Or.inr (Or.inl pool)))
  exact ⟨_, split, keeps, copied, confined.grows h.executor keeps.ownGrows⟩

/-- Work leaves everything that is kept apart from the executor, and as it is. -/
theorem Moment.Apart.work (confined : process.Confined rests holds) (h : moment.Apart process rests holds own kept)
    (work : moment.Work process later) : ∃ own' kept', later.Apart process rests holds own' kept' ∧
      (moment.stage.heap process).Keeps own kept (later.stage.heap process) own' kept' := by
  have records : ∀ {kept' : Nat → Prop}, (∀ id, kept id → kept' id) →
      (∀ run run', moment.stage = .running run → later.stage = .running run' → process.step run run' →
        ∀ value, (process.recorder run').Records value → value.Within kept') →
      ∀ value, later.Records process value → value.Within kept' := by
    intro kept' more new value recorded
    rcases work.records confined.toHooks recorded with earlier | ⟨run, run', before, after, step, listed⟩
    · exact (h.records value earlier).mono more
    · exact new run run' before after step value listed
  cases work with
  | begins =>
    refine ⟨own, kept,
      ⟨?_, records (fun _ => id) (fun _ _ resting => nomatch resting), ?_, confined.begins _ _ _ h.executor⟩, ?_⟩
    · rw [Stage.heap, confined.heap]
      exact h.split
    · rw [Stage.recorder, confined.recorder]
      exact fun value installed => h.installs value installed.of_beginTest
    · rw [Stage.heap, Stage.heap, confined.heap]
      exact .refl
  | @runs _ _ _ run run' step =>
    have apart : (process.recorder run).Apart own kept :=
      ⟨fun value listed => h.records value (Or.inl listed), h.installs⟩
    obtain ⟨own', kept', split, keeps, after, held⟩ := confined.moves step h.split apart h.executor
    refine ⟨own', kept', ⟨split, records keeps.keptGrows ?_, after.installs, held⟩, keeps⟩
    rintro _ _ ⟨⟩ ⟨⟩ _
    exact after.records
  | returns ended =>
    exact ⟨own, kept, ⟨h.split, records (fun _ => id) (fun _ _ _ resting => nomatch resting), h.installs,
      confined.returns ended h.split.ownClosed h.executor⟩, .refl⟩
  | recorded | exhausted | searched =>
    exact ⟨own, kept,
      ⟨h.split, records (fun _ => id) (fun _ _ resting => nomatch resting), h.installs, h.executor⟩, .refl⟩
  | refused pooled =>
    obtain ⟨own', split, keeps, _, executor⟩ := h.give confined pooled
    exact ⟨own', kept, ⟨split, records (fun _ => id) (fun _ _ resting => nomatch resting),
      fun value installed => (h.installs value installed).mono keeps.ownGrows, executor⟩, keeps⟩
  | tries pooled fits =>
    obtain ⟨own', split, keeps, copied, executor⟩ := h.give confined pooled
    refine ⟨own', kept,
      ⟨?_, records (fun _ => id) (fun _ _ resting => nomatch resting), ?_, confined.begins _ _ _ executor⟩, ?_⟩
    · rw [Stage.heap, confined.heap]
      exact split
    · rw [Stage.recorder, confined.recorder]
      intro value installed
      rcases installed.of_beginTest.of_install fits with rfl | earlier
      · exact copied
      · exact (h.installs value earlier).mono keeps.ownGrows
    · rw [Stage.heap, Stage.heap, confined.heap]
      exact keeps
  | judges pooled ended =>
    exact ⟨own, kept, ⟨h.split, records (fun _ => id) (fun _ _ _ resting => nomatch resting),
      fun value installed => h.installs value installed.of_uninstall,
      confined.returns ended h.split.ownClosed h.executor⟩, .refl⟩

variable {executor : Executor ε}

/-- A call does not find anything new that is to be kept. -/
theorem Moment.Next.keeps_records (hooks : process.Hooks) (next : moment.Next executor process later)
    (recorded : later.Records process value) :
    moment.Records process value ∨ ∃ run run', moment.stage = .running run ∧ later.stage = .running run' ∧
      process.step run run' ∧
      (process.recorder run').Records value := by
  cases next with
  | works work => exact work.records hooks recorded
  | records localizer outcomes =>
    rcases recorded with listed | none | emitted
    · exact Or.inl (Or.inl (listed.of_same rfl rfl))
    · exact none.elim
    · exact Or.inl (Or.inr (Or.inr emitted))
  | searches ready outcomes =>
    rcases recorded with listed | (found | ⟨subject, planned, among⟩) | emitted
    · exact Or.inl (Or.inl (listed.of_same rfl rfl))
    · exact absurd found Findings.not_mentions_empty
    · obtain ⟨profile, stored, observation, listed, rfl⟩ := SiteTable.mentions_subjects planned among
      exact Or.inl (Or.inl (Session.records_baselineProfiles stored listed))
    · exact Or.inl (Or.inr (Or.inr emitted))

/-- From one moment to the next the objects stay divided between the session and what it keeps, and what is
kept is not written. -/
theorem Moment.Apart.next (confined : process.Confined rests holds) (h : moment.Apart process rests holds own kept)
    (next : moment.Next executor process later) : ∃ own' kept', later.Apart process rests holds own' kept' ∧
      (moment.stage.heap process).Keeps own kept (later.stage.heap process) own' kept' := by
  have records : (∀ run, moment.stage ≠ .running run) → ∀ value, later.Records process value → value.Within kept := by
    intro resting value recorded
    rcases next.keeps_records confined.toHooks recorded with earlier | ⟨run, _, running, _⟩
    · exact h.records value earlier
    · exact absurd running (resting run)
  cases next with
  | works work => exact h.work confined work
  | records localizer outcomes =>
    exact ⟨own, kept, ⟨h.split, records (fun _ running => nomatch running), by rintro _ ⟨_, ⟨⟩⟩, h.executor⟩, .refl⟩
  | searches ready outcomes =>
    exact ⟨own, kept, ⟨h.split, records (fun _ running => nomatch running), h.installs, h.executor⟩, .refl⟩

/-- So it goes on, whatever is done. -/
theorem Moment.Apart.nexts (confined : process.Confined rests holds) (h : moment.Apart process rests holds own kept)
    (nexts : ReflTransGen (Moment.Next executor process) moment later) :
    ∃ own' kept', later.Apart process rests holds own' kept' ∧
      (moment.stage.heap process).Keeps own kept (later.stage.heap process) own' kept' := by
  induction nexts with
  | refl => exact ⟨own, kept, h, .refl⟩
  | tail _ next ih =>
    obtain ⟨own', kept', apart, keeps⟩ := ih
    obtain ⟨own'', kept'', apart', keeps'⟩ := apart.next confined next
    exact ⟨own'', kept'', apart', keeps.trans keeps'⟩

/-- What is kept at one moment has the same content at every later one. -/
theorem Moment.Apart.sameContent (confined : process.Confined rests holds)
    (h : moment.Apart process rests holds own kept)
    (nexts : ReflTransGen (Moment.Next executor process) moment later)
    (recorded : moment.Records process value) :
    Heap.SameContent (moment.stage.heap process) value (later.stage.heap process) value := by
  obtain ⟨own', kept', _, keeps⟩ := h.nexts confined nexts
  exact keeps.sameContent h.split (h.records value recorded)

/-- Before the first call, an executor that has hold of nothing that is kept. Overrides are of no account,
since recording a baseline takes them away. -/
theorem Localizer.apart_recordingBegun {localizer : Localizer ε} {outcomes : List Findings}
    (split : localizer.session.heap.Split own kept)
    (records : ∀ value, localizer.session.recorder.Records value → value.Within kept)
    (emitted : ∀ found ∈ outcomes, ∀ value, found.Mentions value → value.Within kept)
    (rest : rests own localizer.session.state) :
    (localizer.recordingBegun executor outcomes).Apart process rests holds own kept := by
  refine ⟨split, ?_, by rintro _ ⟨_, ⟨⟩⟩, rest⟩
  rintro value (listed | none | ⟨found, earlier, mentioned⟩)
  · exact records value (listed.of_same rfl rfl)
  · exact none.elim
  · exact emitted found earlier value mentioned

end Confinement

end Faultline
