import Faultline.Machine.Basic

namespace Faultline

variable {σ τ : Type}

/-- Goes on from a step that did not halt. -/
def Step.andThen (first : Step σ) (next : State σ → Step σ) : Step σ :=
  match first with
  | .running state => next state
  | .halted result state => .halted result state

namespace State

/-- What `count` steps in a row lead to; none follows one that halts. -/
def advance (next : State σ → Step σ) : Nat → State σ → Step σ
  | 0, state => .running state
  | count + 1, state => (next state).andThen (advance next count)

/-- The run from a state comes to an end, with no limit on the number of its steps. -/
def Halts (next : State σ → Step σ) (state : State σ) (result : Except RuntimeError (Option Value))
    (last : State σ) : Prop :=
  ∃ count, advance next count state = .halted result last

theorem advance_one (next : State σ → Step σ) (state : State σ) : advance next 1 state = next state := by
  rw [advance]
  cases next state <;> rfl

/-- Steps taken in two portions are the steps taken at once. -/
theorem advance_add {next : State σ → Step σ} {state : State σ} (first second : Nat) :
    advance next (first + second) state = (advance next first state).andThen (advance next second) := by
  induction first generalizing state with
  | zero => rw [Nat.zero_add]; rfl
  | succ first ih =>
    rw [Nat.succ_add]
    simp only [advance]
    cases next state with
    | running later => exact ih
    | halted result last => rfl

theorem advance_halted_mono {next : State σ → Step σ} {state last : State σ}
    {result : Except RuntimeError (Option Value)} {first second : Nat}
    (halted : advance next first state = .halted result last) (within : first ≤ second) :
    advance next second state = .halted result last := by
  obtain ⟨extra, rfl⟩ := Nat.exists_eq_add_of_le within
  rw [advance_add, halted]
  rfl

/-- A run that halts does so with one result and in one state. -/
theorem Halts.unique {next : State σ → Step σ} {state last last' : State σ}
    {result result' : Except RuntimeError (Option Value)} (run : Halts next state result last)
    (run' : Halts next state result' last') : result = result' ∧ last = last' := by
  obtain ⟨first, halted⟩ := run
  obtain ⟨second, halted'⟩ := run'
  have atMax := advance_halted_mono halted (Nat.le_max_left first second)
  rw [advance_halted_mono halted' (Nat.le_max_right first second)] at atMax
  cases atMax
  exact ⟨rfl, rfl⟩

theorem Halts.of_advance {next : State σ → Step σ} {state later last : State σ}
    {result : Except RuntimeError (Option Value)} {count : Nat}
    (reached : advance next count state = .running later) (run : Halts next later result last) :
    Halts next state result last := by
  obtain ⟨more, halted⟩ := run
  refine ⟨count + more, ?_⟩
  rw [advance_add, reached]
  exact halted

/-- A run that halts within `total` steps and is still going after `count` of them has fewer to go. -/
theorem advance_sub_of_running {next : State σ → Step σ} {state later last : State σ}
    {result : Except RuntimeError (Option Value)} {count total : Nat}
    (reached : advance next count state = .running later)
    (halted : advance next total state = .halted result last) :
    count < total ∧ advance next (total - count) later = .halted result last := by
  have before : count < total := by
    apply Nat.lt_of_not_le
    intro past
    rw [advance_halted_mono halted past] at reached
    cases reached
  refine ⟨before, ?_⟩
  have split : total = count + (total - count) := by omega
  rw [split, advance_add, reached] at halted
  exact halted

/-- How a machine answers a step of another one: a step that goes on by one or more steps into a related
state, a step that halts by a run that ends in a related way. -/
def Answers (next : State τ → Step τ) (related : State σ → State τ → Prop)
    (ended : Except RuntimeError (Option Value) → State σ → Except RuntimeError (Option Value) → State τ → Prop)
    (state : State τ) : Step σ → Prop
  | .running later => ∃ count later', advance next (count + 1) state = .running later' ∧ related later later'
  | .halted result last => ∃ result' last', Halts next state result' last' ∧ ended result last result' last'

section Simulation

variable {next : State σ → Step σ} {next' : State τ → Step τ} {related : State σ → State τ → Prop}
  {ended : Except RuntimeError (Option Value) → State σ → Except RuntimeError (Option Value) → State τ → Prop}

/-- A run that is answered step by step by another machine makes that machine halt too. -/
theorem Halts.simulated
    (square : ∀ state state', related state state' → Answers next' related ended state' (next state))
    {state last : State σ} {state' : State τ} {result : Except RuntimeError (Option Value)}
    (start : related state state') (run : Halts next state result last) :
    ∃ result' last', Halts next' state' result' last' ∧ ended result last result' last' := by
  obtain ⟨count, halted⟩ := run
  induction count generalizing state state' with
  | zero => cases halted
  | succ count ih =>
    have answer := square state state' start
    simp only [advance] at halted
    cases step : next state with
    | halted stepResult stepLast =>
      rw [step] at answer halted
      cases halted
      exact answer
    | running later =>
      rw [step] at answer halted
      obtain ⟨more, later', reached, onward⟩ := answer
      obtain ⟨result', last', rest, same⟩ := ih onward halted
      exact ⟨result', last', rest.of_advance reached, same⟩

/-- Since every step is answered by at least one, the answering machine cannot end while the other goes on. -/
theorem Halts.reflected
    (square : ∀ state state', related state state' → Answers next' related ended state' (next state))
    {state : State σ} {state' last' : State τ} {result' : Except RuntimeError (Option Value)}
    (start : related state state') (run : Halts next' state' result' last') :
    ∃ result last, Halts next state result last ∧ ended result last result' last' := by
  obtain ⟨total, halted⟩ := run
  induction total using Nat.strongRecOn generalizing state state' with
  | ind total ih =>
    have answer := square state state' start
    cases step : next state with
    | halted result last =>
      rw [step] at answer
      obtain ⟨other, otherLast, run', same⟩ := answer
      obtain ⟨rfl, rfl⟩ := run'.unique ⟨total, halted⟩
      refine ⟨result, last, ⟨1, ?_⟩, same⟩
      simp only [advance, step, Step.andThen]
    | running later =>
      rw [step] at answer
      obtain ⟨more, later', reached, onward⟩ := answer
      obtain ⟨_, rest⟩ := advance_sub_of_running reached halted
      obtain ⟨result, last, run, same⟩ := ih (total - (more + 1)) (by omega) onward rest
      have first : advance next 1 state = .running later := by rw [advance_one, step]
      exact ⟨result, last, run.of_advance first, same⟩

end Simulation

/-- Under a limit a run is cut off at it and is otherwise the run without one. -/
theorem run_eq (program : Program) (hook : Hook σ) (limits : Limits) (limit : UInt64) (count : Nat)
    (state : State σ) :
    let answer := State.run program hook limits limit count state
    match advance (State.step program hook limits) count state with
    | .running last => answer.1 = .error (.stepLimit limit) ∧ answer.2.2 = last
    | .halted result last => answer.1 = result ∧ answer.2.2 = last := by
  induction count generalizing state with
  | zero => exact ⟨rfl, rfl⟩
  | succ count ih =>
    simp only [State.run, advance]
    cases State.step program hook limits state with
    | running later => exact ih later
    | halted result last => exact ⟨rfl, rfl⟩

end State

/-- A call from outside: what is called, and the memory and hook it finds. -/
structure Invocation (σ : Type) where
  method : Member
  args : List Value
  memory : Memory
  hookState : σ

/-- What a call from outside leaves behind. -/
structure Outcome (σ : Type) where
  result : Except RuntimeError (Option Value)
  memory : Memory
  hookState : σ

namespace Program

/-- The calls in progress at the start of an invocation. -/
def enter (program : Program) (limits : Limits) (method : Member) (args : List Value) :
    Except RuntimeError (List Frame) := do
  enterCall limits (← program.method method) args []

/-- An invocation with no limit on its steps comes to an end, the machine moving by `next`. -/
inductive Ends (program : Program) (limits : Limits) (next : State σ → Step σ) (call : Invocation σ) :
    Outcome σ → Prop
  | refused {failure} : program.enter limits call.method call.args = .error failure →
      Ends program limits next call ⟨.error failure, call.memory, call.hookState⟩
  | ran {frames result last} : program.enter limits call.method call.args = .ok frames →
      State.Halts next ⟨frames, call.memory, call.hookState⟩ result last →
      Ends program limits next call ⟨result, last.memory, last.hookState⟩

/-- A run without a counter ends with one outcome. -/
theorem Ends.unique {program : Program} {limits : Limits} {next : State σ → Step σ} {call : Invocation σ}
    {outcome outcome' : Outcome σ} (run : Ends program limits next call outcome)
    (run' : Ends program limits next call outcome') : outcome = outcome' := by
  cases run with
  | refused refusal =>
    cases run' with
    | refused refusal' =>
      rw [refusal] at refusal'
      cases refusal'
      rfl
    | ran entered => rw [refusal] at entered; cases entered
  | ran entered halts =>
    cases run' with
    | refused refusal => rw [refusal] at entered; cases entered
    | ran entered' halts' =>
      rw [entered] at entered'
      cases entered'
      obtain ⟨rfl, rfl⟩ := halts.unique halts'
      rfl

end Program

/-- An invocation answers how the call ends, unless it is cut off at its limit. -/
theorem Machine.invoke_ends_within {machine : Machine} {hook : Hook σ} {hookState hookState' : σ} {method : Member}
    {args : List Value} {result : Except RuntimeError (Option Value)} {machine' : Machine}
    (answer : machine.invoke hook hookState method args = (result, machine', hookState'))
    (within : result ≠ .error (.stepLimit (machine.limits.steps.getD 0xFFFFFFFFFFFFFFFF))) :
    machine.program.Ends machine.limits (State.step machine.program hook machine.limits)
      ⟨method, args, machine.memory, hookState⟩ ⟨result, machine'.memory, hookState'⟩ := by
  unfold Machine.invoke at answer
  cases target : machine.program.method method with
  | error failure =>
    rw [target] at answer
    cases answer
    exact .refused (by simp only [Program.enter, target]; rfl)
  | ok declared =>
    have entering : machine.program.enter machine.limits method args = enterCall machine.limits declared args [] := by
      simp only [Program.enter, target]
      rfl
    rw [target] at answer
    cases entered : enterCall machine.limits declared args [] with
    | error failure =>
      simp only [entered] at answer
      cases answer
      exact .refused (entering.trans entered)
    | ok frames =>
      simp only [entered] at answer
      have cut := State.run_eq machine.program hook machine.limits (machine.limits.steps.getD 0xFFFFFFFFFFFFFFFF)
        (machine.limits.steps.getD 0xFFFFFFFFFFFFFFFF).toNat ⟨frames, machine.memory, hookState⟩
      cases answer
      cases whole : State.advance (State.step machine.program hook machine.limits)
          (machine.limits.steps.getD 0xFFFFFFFFFFFFFFFF).toNat ⟨frames, machine.memory, hookState⟩ with
      | running last =>
        rw [whole] at cut
        exact absurd cut.1 within
      | halted finalResult last =>
        rw [whole] at cut
        obtain ⟨sameResult, sameLast⟩ := cut
        rw [sameResult, sameLast]
        exact .ran (entering.trans entered) ⟨_, whole⟩

/-- Where a machine has no limit of its own, that is the counter of instructions. -/
theorem Machine.invoke_ends {machine : Machine} {hook : Hook σ} {hookState hookState' : σ} {method : Member}
    {args : List Value} {result : Except RuntimeError (Option Value)} {machine' : Machine}
    (unlimited : machine.limits.steps = none)
    (answer : machine.invoke hook hookState method args = (result, machine', hookState'))
    (counted : result ≠ .error (.stepLimit 0xFFFFFFFFFFFFFFFF)) :
    machine.program.Ends machine.limits (State.step machine.program hook machine.limits)
      ⟨method, args, machine.memory, hookState⟩ ⟨result, machine'.memory, hookState'⟩ :=
  Machine.invoke_ends_within answer (by rwa [unlimited])

end Faultline
