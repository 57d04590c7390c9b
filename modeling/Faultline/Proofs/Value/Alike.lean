import Faultline.Machine.Operator
import Faultline.Proofs.Machine.Agreement
import Faultline.Proofs.Table
import Faultline.Value.Heap

namespace Faultline

/-- Whether the error says at which instruction it arose. -/
def RuntimeError.isPlaced : RuntimeError → Bool
  | thrown .. | stackUnderflow .. => true
  | _ => false

/-- Whether the error comes of a hook that refuses a value or answers an unfitting one. -/
def RuntimeError.isOfHook : RuntimeError → Bool
  | hook .. | hookResultType .. => true
  | _ => false

/-- Whether an instruction that is no hook call can fail in this way, without saying where. -/
def RuntimeError.isPlain (error : RuntimeError) : Bool := !error.isPlaced && !error.isOfHook

theorem RuntimeError.isPlaced_of_isPlain {error : RuntimeError} (plain : error.isPlain) : error.isPlaced = false := by
  simp only [isPlain, Bool.and_eq_true, Bool.not_eq_true'] at plain
  exact plain.1

theorem RuntimeError.isOfHook_of_isPlain {error : RuntimeError} (plain : error.isPlain) : error.isOfHook = false := by
  simp only [isPlain, Bool.and_eq_true, Bool.not_eq_true'] at plain
  exact plain.2

/-- The same error on both sides, and a plain one. -/
def RuntimeError.Plain (error error' : RuntimeError) : Prop := error' = error ∧ error.isPlain

/-- Whether each object of either side is paired with at most one of the other. -/
def OneToOne (pairing : Nat → Nat → Prop) : Prop :=
  ∀ {a b a' b'}, pairing a b → pairing a' b' → (a = a' ↔ b = b')

theorem OneToOne.eq : OneToOne Eq := by
  rintro a _ a' _ rfl rfl
  exact Iff.rfl

/-- Values that are the same but for the identities of the objects in them, which are paired. -/
inductive Value.Alike (pairing : Nat → Nat → Prop) : Value → Value → Prop
  | null : Alike pairing .null .null
  | bool (b : Bool) : Alike pairing (.bool b) (.bool b)
  | int32 (n : Int32) : Alike pairing (.int32 n) (.int32 n)
  | int64 (n : Int64) : Alike pairing (.int64 n) (.int64 n)
  | float64 (x : Double) : Alike pairing (.float64 x) (.float64 x)
  | char (c : Char) : Alike pairing (.char c) (.char c)
  | string (s : String) : Alike pairing (.string s) (.string s)
  | object {a b : Nat} (className : String) (paired : pairing a b) :
      Alike pairing (.object ⟨a, className⟩) (.object ⟨b, className⟩)
  | boxed {a b : Value} (inner : Alike pairing a b) : Alike pairing (.boxed a) (.boxed b)

abbrev Fields.Alike (pairing : Nat → Nat → Prop) (fields fields' : Fields) : Prop :=
  Table.Alike (Value.Alike pairing) fields fields'

/-- How an error names the operands of an operation. -/
def Value.describeBoth (a b : Value) : String := s!"{a.describe} and {b.describe}"

/-- Heaps of which the paired objects have alike fields. -/
structure Heap.Alike (pairing : Nat → Nat → Prop) (heap heap' : Heap) : Prop where
  oneToOne : OneToOne pairing
  fields : ∀ a b, pairing a b → Fields.Alike pairing (heap.fields a) (heap'.fields b)

namespace Value.Alike

variable {pairing pairing' : Nat → Nat → Prop} {a b a' b' : Value}

theorem mono (more : ∀ x y, pairing x y → pairing' x y) (h : Alike pairing a a') : Alike pairing' a a' := by
  induction h with
  | object className paired => exact .object className (more _ _ paired)
  | boxed _ ih => exact .boxed ih
  | _ => constructor

theorem refl {pairing : Nat → Nat → Prop} {a : Value}
    (own : ∀ reference, a.reference? = some reference → pairing reference.id reference.id) :
    Alike pairing a a := by
  induction a with
  | object reference => exact .object reference.className (own reference rfl)
  | boxed inner ih => exact .boxed (ih own)
  | _ => constructor

/-- Alike by identity is equal. -/
theorem eq_iff : Alike Eq a a' ↔ a = a' := by
  constructor
  · intro h
    induction h with
    | object className paired => rw [paired]
    | boxed _ ih => rw [ih]
    | _ => rfl
  · rintro rfl
    exact refl fun _ _ => rfl

theorem eq_of_plain (h : Alike pairing a a') (plain : a.reference? = none) : a' = a := by
  induction h with
  | object => cases plain
  | boxed _ ih => rw [ih plain]
  | _ => rfl

theorem describe_eq (h : Alike pairing a a') : a'.describe = a.describe := by
  induction h with
  | boxed _ ih => simp only [describe, ih]
  | _ => rfl

theorem text_eq (h : Alike pairing a a') : a'.text = a.text := by
  induction h with
  | boxed _ ih => simp only [text, ih]
  | _ => rfl

theorem plainText_eq (h : Alike pairing a a') : a'.plainText = a.plainText := by
  cases h with
  | boxed inner => simp only [plainText, inner.boxed.text_eq]
  | _ => rfl

theorem isAssignable_eq (h : Alike pairing a a') (type : ValueType) : a'.isAssignable type = a.isAssignable type := by
  cases h <;> rfl

theorem isTruthy_eq (h : Alike pairing a a') : a'.isTruthy = a.isTruthy := by cases h <;> rfl

/-- Boxing keeps values alike. -/
theorem box (h : Alike pairing a a') : Alike pairing a.box a'.box := by
  cases h with
  | null => exact .null
  | bool b => exact .boxed (.bool b)
  | int32 n => exact .boxed (.int32 n)
  | int64 n => exact .boxed (.int64 n)
  | float64 x => exact .boxed (.float64 x)
  | char c => exact .boxed (.char c)
  | string s => exact .string s
  | object className paired => exact .object className paired
  | boxed inner => exact .boxed inner

/-- Alike boxes hold alike values, and fail alike. -/
theorem unbox (h : Alike pairing a a') (type : ValueType) :
    Agree Eq (Alike pairing) (a.unbox type) (a'.unbox type) := by
  cases h with
  | boxed inner =>
    simp only [Value.unbox, inner.isAssignable_eq, inner.boxed.describe_eq]
    split
    · exact .ok inner
    · exact .error rfl
  | _ => exact .error rfl

theorem reference? (h : Alike pairing a a') :
    (a.reference? = none ∧ a'.reference? = none) ∨ ∃ reference reference', a.reference? = some reference ∧
      a'.reference? = some reference' ∧ pairing reference.id reference'.id := by
  induction h with
  | object className paired => exact Or.inr ⟨_, _, rfl, rfl, paired⟩
  | boxed _ ih => exact ih
  | _ => exact Or.inl ⟨rfl, rfl⟩

/-- A pairing that is one to one leaves every comparison as it is. -/
theorem equals_eq (oneToOne : OneToOne pairing) (first : Alike pairing a a') (second : Alike pairing b b') :
    a'.equals b' = a.equals b := by
  induction first generalizing b b' with
  | object className paired =>
    cases second with
    | object className' paired' => simp only [equals, oneToOne paired paired']
    | _ => rfl
  | boxed inner ih =>
    cases second with
    | boxed inner' => exact ih inner'
    | _ => rfl
  | _ => cases second <;> rfl

theorem isEqual_eq (oneToOne : OneToOne pairing) (first : Alike pairing a a') (second : Alike pairing b b') :
    a'.isEqual b' = a.isEqual b := by
  have general := equals_eq oneToOne first second
  cases first <;> cases second <;> first | rfl | exact general

/-- An operation on numbers takes no notice of objects, but for their classes in its errors. -/
theorem arithmetic (operation : Arithmetic) (first : Alike pairing a a') (second : Alike pairing b b') :
    Agree RuntimeError.Plain (Alike pairing) (operation.apply a b) (operation.apply a' b') := by
  have mismatch : Agree (α := Value) RuntimeError.Plain (Alike pairing)
      (.error (RuntimeError.typeMismatch operation.name (describeBoth a b)))
      (.error (RuntimeError.typeMismatch operation.name (describeBoth a' b'))) := by
    rw [describeBoth, describeBoth, first.describe_eq, second.describe_eq]
    exact .error ⟨rfl, rfl⟩
  cases first <;> cases second <;>
    first | exact mismatch | exact .ok (.int32 _) | exact .ok (.int64 _) | exact .ok (.float64 _)

/-- Adding alike values gives alike sums, and fails alike. -/
theorem add (first : Alike pairing a a') (second : Alike pairing b b') :
    Agree RuntimeError.Plain (Alike pairing) (a.add b) (a'.add b') := by
  have sum := arithmetic ⟨"add", (· + ·), (· + ·), Double.add⟩ first second
  have plainFirst := first.plainText_eq
  have plainSecond := second.plainText_eq
  cases first with
  | string s =>
    simp only [Value.add, plainSecond]
    exact .ok (.string _)
  | _ =>
    cases second with
    | string s =>
      simp only [Value.add, plainFirst]
      exact .ok (.string _)
    | _ => exact sum

theorem isIntegerZero_eq (h : Alike pairing a a') : a'.isIntegerZero = a.isIntegerZero := by cases h <;> rfl

theorem div (first : Alike pairing a a') (second : Alike pairing b b') :
    Agree RuntimeError.Plain (Alike pairing) (a.div b) (a'.div b') := by
  unfold Value.div
  rw [second.isIntegerZero_eq]
  split
  · exact .error ⟨rfl, rfl⟩
  · exact arithmetic _ first second

theorem rem (first : Alike pairing a a') (second : Alike pairing b b') :
    Agree RuntimeError.Plain (Alike pairing) (a.rem b) (a'.rem b') := by
  unfold Value.rem
  rw [second.isIntegerZero_eq]
  split
  · exact .error ⟨rfl, rfl⟩
  · exact arithmetic _ first second

theorem neg (h : Alike pairing a a') : Agree RuntimeError.Plain (Alike pairing) a.neg a'.neg := by
  have described := h.describe_eq
  cases h with
  | int32 n => exact .ok (.int32 _)
  | int64 n => exact .ok (.int64 _)
  | float64 x => exact .ok (.float64 _)
  | _ => simp only [Value.neg, described]; exact .error ⟨rfl, rfl⟩

theorem order (first : Alike pairing a a') (second : Alike pairing b b') :
    Agree RuntimeError.Plain Eq (a.order b) (a'.order b') := by
  have mismatch : Agree (α := Option Ordering) RuntimeError.Plain Eq
      (.error (RuntimeError.typeMismatch "compare" (describeBoth a b)))
      (.error (RuntimeError.typeMismatch "compare" (describeBoth a' b'))) := by
    rw [describeBoth, describeBoth, first.describe_eq, second.describe_eq]
    exact .error ⟨rfl, rfl⟩
  cases first <;> cases second <;> first | exact mismatch | exact .ok rfl

theorem isLess (first : Alike pairing a a') (second : Alike pairing b b') :
    Agree RuntimeError.Plain (Alike pairing) (a.isLess b) (a'.isLess b') := by
  refine (order first second).map ?_
  rintro order _ rfl
  exact .bool _

theorem isGreater (first : Alike pairing a a') (second : Alike pairing b b') :
    Agree RuntimeError.Plain (Alike pairing) (a.isGreater b) (a'.isGreater b') := by
  refine (order first second).map ?_
  rintro order _ rfl
  exact .bool _

end Value.Alike

section Symmetry

variable {pairing pairing' : Nat → Nat → Prop}

theorem Value.Alike.symm {a b : Value} (h : Value.Alike pairing a b) : Value.Alike (fun x y => pairing y x) b a := by
  induction h with
  | object className paired => exact .object className paired
  | boxed _ ih => exact .boxed ih
  | _ => constructor

/-- What two partners have in common, they have with each other. -/
theorem Value.Alike.join {origin a b : Value} (first : Value.Alike pairing origin a)
    (second : Value.Alike pairing' origin b) :
    Value.Alike (fun x y => ∃ z, pairing z x ∧ pairing' z y) a b := by
  induction first generalizing b with
  | object className paired =>
    cases second with
    | object _ paired' => exact .object className ⟨_, paired, paired'⟩
  | boxed _ ih =>
    cases second with
    | boxed inner => exact .boxed (ih inner)
  | _ => cases second; constructor

theorem Fields.Alike.symm {fields fields' : Fields} (h : Fields.Alike pairing fields fields') :
    Fields.Alike (fun x y => pairing y x) fields' fields :=
  List.Forall₂.flip (h.imp fun _ _ same => ⟨same.1.symm, same.2.symm⟩)

theorem Fields.Alike.join {origin fields fields' : Fields} (first : Fields.Alike pairing origin fields)
    (second : Fields.Alike pairing' origin fields') :
    Fields.Alike (fun x y => ∃ z, pairing z x ∧ pairing' z y) fields fields' := by
  refine (forall₂_join first second).imp ?_
  rintro entry entry' ⟨_, here, here'⟩
  exact ⟨here.1.symm.trans here'.1, here.2.join here'.2⟩

end Symmetry

end Faultline
