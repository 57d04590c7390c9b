namespace Faultline

/-- Two computations that both succeed, with related results, or both fail, with related errors. -/
inductive Agree {ε ε' α β : Type} (failures : ε → ε' → Prop) (results : α → β → Prop) :
    Except ε α → Except ε' β → Prop
  | ok {result result'} (related : results result result') : Agree failures results (.ok result) (.ok result')
  | error {failure failure'} (related : failures failure failure') :
      Agree failures results (.error failure) (.error failure')

namespace Agree

variable {ε ε' α β γ δ : Type} {failures : ε → ε' → Prop} {results : α → β → Prop}

theorem bind {later : γ → δ → Prop} {first : Except ε α} {first' : Except ε' β} {next : α → Except ε γ}
    {next' : β → Except ε' δ} (start : Agree failures results first first')
    (onward : ∀ a b, results a b → Agree failures later (next a) (next' b)) :
    Agree failures later (first >>= next) (first' >>= next') := by
  cases start with
  | ok related => exact onward _ _ related
  | error related => exact .error related

theorem map {later : γ → δ → Prop} {first : Except ε α} {first' : Except ε' β} {f : α → γ} {g : β → δ}
    (start : Agree failures results first first') (onward : ∀ a b, results a b → later (f a) (g b)) :
    Agree failures later (first.map f) (first'.map g) := by
  cases start with
  | ok related => exact .ok (onward _ _ related)
  | error related => exact .error related

theorem mono {failures' : ε → ε' → Prop} {results' : α → β → Prop} {first : Except ε α} {first' : Except ε' β}
    (start : Agree failures results first first') (failing : ∀ e e', failures e e' → failures' e e')
    (succeeding : ∀ a b, results a b → results' a b) : Agree failures' results' first first' := by
  cases start with
  | ok related => exact .ok (succeeding _ _ related)
  | error related => exact .error (failing _ _ related)

theorem mapError {ε₁ ε₂ : Type} {failures' : ε₁ → ε₂ → Prop} {first : Except ε α} {first' : Except ε' β}
    {f : ε → ε₁} {g : ε' → ε₂} (start : Agree failures results first first')
    (failing : ∀ e e', failures e e' → failures' (f e) (g e')) :
    Agree failures' results (first.mapError f) (first'.mapError g) := by
  cases start with
  | ok related => exact .ok related
  | error related => exact .error (failing _ _ related)

/-- Agreement with an intermediate result carries over, with the failures related through it. -/
theorem trans {ε'' : Type} {failures' : ε' → ε'' → Prop} {first : Except ε α} {second : Except ε' β}
    {third : Except ε'' β} (start : Agree failures results first second)
    (onward : Agree failures' Eq second third) :
    Agree (fun e e'' => ∃ e', failures e e' ∧ failures' e' e'') results first third := by
  cases start with
  | ok related =>
    cases onward with
    | ok same => exact .ok (same ▸ related)
  | error related =>
    cases onward with
    | error related' => exact .error ⟨_, related, related'⟩

end Agree

end Faultline
