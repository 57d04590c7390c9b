import Mathlib.Tactic.IntervalCases
import Faultline.Proofs.Code.Composition

namespace Faultline

namespace Reader

/-- What becomes of a reader that reads `x` where only the front of the data is left: it comes to the end of
that and says so, or it reads `x` all the same, and ends where it would with the whole. -/
inductive Cut {α : Type} (item : Reader α) (offset : Nat) (front back : Bytes) (x : α) (after : Cursor) : Prop
  | ended {place : Nat} (within : place ≤ offset + front.length)
      (stops : item ⟨offset, front⟩ = .error (.truncated place)) : Cut item offset front back x after
  | reads {rest : Bytes} (left : after.rest = rest ++ back)
      (level : after.offset + rest.length = offset + front.length)
      (here : item ⟨offset, front⟩ = .ok (x, ⟨after.offset, rest⟩)) : Cut item offset front back x after

/-- Where the end of the data is cut off, the reader fails in no other way than for want of it, and reads
nothing else. -/
def Sequential {α : Type} (item : Reader α) : Prop :=
  ∀ ⦃offset front back x after⦄, item ⟨offset, front ++ back⟩ = .ok (x, after) → Cut item offset front back x after

variable {α β : Type} {item : Reader α} {next : α → Reader β}

namespace Sequential

theorem pure (x : α) : Sequential (Pure.pure x) := by
  rintro offset front back _ _ ⟨⟩
  exact .reads rfl rfl rfl

theorem fail (failure : DecodeError) : Sequential (Reader.fail failure : Reader α) := by
  rintro offset front back x after ⟨⟩

/-- One reader after another stops where the first does, or else where the second does on what the first leaves. -/
theorem bind (first : Sequential item) (later : ∀ x, Sequential (next x)) : Sequential (item >>= next) := by
  intro offset front back y after read
  obtain ⟨x, between, readFirst, readLater⟩ := bind_eq_ok.1 read
  cases first readFirst with
  | ended within stops =>
    refine .ended within ?_
    simp only [Bind.bind, StateT.bind, stops, Except.bind]
  | @reads rest left level here =>
    obtain ⟨middle, _⟩ := between
    subst left
    cases later x readLater with
    | ended within stops =>
      refine .ended (level ▸ within) ?_
      rw [bind_apply here, stops]
    | reads left' level' here' =>
      refine .reads left' (level'.trans level) ?_
      rw [bind_apply here, here']

theorem map {f : α → β} (sequential : Sequential item) : Sequential (f <$> item) := by
  rw [map_eq_pure_bind]
  exact sequential.bind fun _ => .pure _

end Sequential

/-! The readers that look at the bytes. -/

/-- A run of bytes succeeds on every longer input and is truncated on every shorter one. -/
theorem sequential_bytes (n : Nat) : Sequential (bytes n) := by
  intro offset front back raw after read
  unfold bytes at read
  split at read
  case h_2 => cases read
  rename_i raw rest split
  cases read
  obtain ⟨whole, taken⟩ := splitExactly_eq_some split
  cases cut : splitExactly n front with
  | none =>
    refine .ended (Nat.le_add_right ..) ?_
    simp only [bytes, cut]
  | some parts =>
    obtain ⟨raw', left⟩ := parts
    obtain ⟨rfl, taken'⟩ := splitExactly_eq_some cut
    rw [List.append_assoc] at whole
    obtain ⟨rfl, rfl⟩ := List.append_inj whole (taken'.trans taken.symm)
    refine .reads rfl ?_ ?_
    · rw [List.length_append, taken, Nat.add_assoc]
    · simp only [bytes, cut]

/-- A length that is past the end only because the data is cut off is told as the end of the data. -/
theorem sequential_count : Sequential count := by
  intro offset front back n after read
  have length : Sequential length := .map (sequential_bytes 4)
  cases length (count_eq_ok read) with
  | ended within stops =>
    refine .ended within ?_
    simp only [count, stops, Bind.bind, Except.bind]
  | @reads rest left level here =>
    by_cases short : rest.length < n
    · refine .ended (Nat.le_add_right offset front.length) ?_
      simp only [count, here, Bind.bind, Except.bind, if_pos short]
      rfl
    · refine .reads left level ?_
      simp only [count, here, Bind.bind, Except.bind, if_neg short]
      rfl

/-- Sequential readers are closed under sequencing, repetition and choice by a tag. -/
theorem sequential_compositional : Compositional @Sequential where
  pure := .pure
  bind := .bind
  bytes := sequential_bytes
  count := sequential_count
  invalidText _ := .fail _
  invalidChar _ := .fail _
  tagged branches := by
    have offset : Sequential offset := by
      rintro offset front back _ _ ⟨⟩
      exact .reads rfl rfl rfl
    have byte : Sequential byte := .map (.map (sequential_bytes 1))
    refine .bind offset fun start => .bind byte fun tag => ?_
    rcases branches start tag with branch | ⟨failure, -, same⟩
    · exact branch
    · rw [same]
      exact .fail failure

theorem sequential_module : Sequential module := sequential_compositional.module

/-- A reader that needs all of the data to the end tells of every part of it that is too short. -/
theorem Sequential.stops {raw : Bytes} {x : α} (sequential : Sequential item) (reads : item.Reads raw x)
    (offset : Nat) {size : Nat} (short : size < raw.length) :
    ∃ place ≤ offset + size, item ⟨offset, raw.take size⟩ = .error (.truncated place) := by
  have whole : item ⟨offset, raw.take size ++ raw.drop size⟩ = .ok (x, ⟨offset + raw.length, []⟩) := by
    rw [List.take_append_drop]
    simpa only [List.append_nil] using reads offset []
  have length : (raw.take size).length = size := List.length_take_of_le (Nat.le_of_lt short)
  cases sequential whole with
  | ended within stops => exact ⟨_, length ▸ within, stops⟩
  | reads left =>
    have none : raw.drop size = [] := (List.append_eq_nil_iff.1 left.symm).2
    exact absurd (List.drop_eq_nil_iff.1 none) (Nat.not_le.2 short)

end Reader

theorem Module.decode_marked (rest : Bytes) :
    Module.decode (magic ++ formatVersion :: rest) = (·.1) <$> Reader.module ⟨5, rest⟩ := rfl

/-- Of a module that is written, every part that lacks the end is refused: for its header if that is not
whole, and else for want of bytes, at a place that is not past the end of the part. -/
theorem Module.decode_take {m : Module} (fits : m.Fits) {n : Nat} (short : n < m.encode.length) :
    (n < 5 → Module.decode (m.encode.take n) = .error .shortHeader) ∧
      (5 ≤ n → ∃ offset ≤ n, Module.decode (m.encode.take n) = .error (.truncated offset)) := by
  constructor
  · intro headless
    interval_cases n <;> rfl
  · intro header
    obtain ⟨size, rfl⟩ := Nat.exists_eq_add_of_le header
    have whole : m.encode.length = m.content.length + 5 := rfl
    have inside : size < m.content.length := by omega
    obtain ⟨place, within, stops⟩ := Reader.sequential_module.stops (Reader.reads_module fits) 5 inside
    refine ⟨place, within, ?_⟩
    have part : m.encode.take (5 + size) = magic ++ formatVersion :: m.content.take size := by
      rw [Nat.add_comm]
      rfl
    rw [part, decode_marked, stops]
    rfl

theorem Module.decode_take_kitchen :
    kitchenModule.Fits ∧ 150 < kitchenModule.encode.length ∧
      Module.decode (kitchenModule.encode.take 4) = .error .shortHeader ∧
      ∃ offset ≤ 150, Module.decode (kitchenModule.encode.take 150) = .error (.truncated offset) := by
  have fits : kitchenModule.Fits := by decide
  have long : 150 < kitchenModule.encode.length := by decide +kernel
  have headless : 4 < kitchenModule.encode.length := Nat.lt_trans (by decide) long
  exact ⟨fits, long, (decode_take fits headless).1 (by decide), (decode_take fits long).2 (by decide)⟩

end Faultline
