import Faultline.Machine.Step

namespace Faultline

/-- A program with its memory and the number of instructions that the last invocation executed. -/
structure Machine where
  program : Program
  limits : Limits
  memory : Memory
  steps : Nat

namespace Machine

def load (program : Program) (limits : Limits) (heap : Heap) : Machine :=
  ⟨program, limits, ⟨heap, .empty⟩, 0⟩

/-- Forgets every stored static field. -/
def reset (machine : Machine) : Machine :=
  { machine with memory := { machine.memory with statics := .empty } }

/-- Calls a method from outside. The counter of instructions has 64 bits, so an invocation without a limit
of its own is held to the counter's range. -/
def invoke {σ : Type} (machine : Machine) (hook : Hook σ) (hookState : σ) (method : Member)
    (args : List Value) : Except RuntimeError (Option Value) × Machine × σ :=
  match machine.program.method method with
  | .error failure => (.error failure, machine, hookState)
  | .ok target =>
    match enterCall machine.limits target args [] with
    | .error failure => (.error failure, { machine with steps := 0 }, hookState)
    | .ok frames =>
      let limit := machine.limits.steps.getD 0xFFFFFFFFFFFFFFFF
      let (result, left, state) :=
        State.run machine.program hook machine.limits limit limit.toNat ⟨frames, machine.memory, hookState⟩
      (result, { machine with memory := state.memory, steps := limit.toNat - left }, state.hookState)

end Machine

end Faultline
