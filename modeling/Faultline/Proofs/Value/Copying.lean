import Faultline.Proofs.Value.Heap

namespace Faultline

namespace Copying

variable {origin : Heap} {state middle later : Copying}

section Induction

/-- An object that has a copy is not copied once more. -/
theorem copyObject_of_copied (origin : Heap) {reference : Reference} {copy : Nat}
    (known : state.copies.get? reference.id = some copy) :
    (copyObject origin state reference).copied = { reference with id := copy } ∧
      (copyObject origin state reference).later = state := by
  rw [copyObject]
  split
  · rename_i other found
    rw [known] at found
    cases found
    exact ⟨rfl, rfl⟩
  · rename_i absent
    rw [known] at absent
    cases absent

/-- An object that is met for the first time has its copy before what its fields refer to is copied, and the copy is
completed afterwards. -/
theorem copyObject_of_first {reference : Reference} (first : state.copies.get? reference.id = none)
    (inside : reference.id < origin.size) :
    let copy := state.heap.next reference.className
    let fields := copyEntries (fun state _ reference => copyObject origin state reference) (state.enter reference)
      (Nat.le_refl _) (origin.fields reference.id).entries
    (copyObject origin state reference).copied = copy ∧
      (copyObject origin state reference).later = fields.later.complete copy (.ofList fields.copied) := by
  rw [copyObject]
  split
  · rename_i found
    rw [first] at found
    cases found
  · rw [dif_pos inside]
    exact ⟨rfl, rfl⟩

/-- A reference that leads out of the heap is copied as it is. -/
theorem copyObject_of_missing {reference : Reference} (first : state.copies.get? reference.id = none)
    (outside : origin.size ≤ reference.id) :
    (copyObject origin state reference).copied = reference ∧ (copyObject origin state reference).later = state := by
  rw [copyObject]
  split
  · rename_i found
    rw [first] at found
    cases found
  · rw [dif_neg (Nat.not_lt.2 outside)]
    exact ⟨rfl, rfl⟩

variable {onValue : Copying → Value → Value → Copying → Prop}
  {onEntries : Copying → List (String × Value) → List (String × Value) → Copying → Prop}

section Parts

variable {bound : Nat} {object : ObjectCopier origin bound}

/-- To show something of a copied value it is enough to show it of objects, of boxes and of plain values. -/
theorem copyValue_induction
    (objects : ∀ state within reference,
      onValue state (.object reference) (.object (object state within reference).copied)
      (object state within reference).later)
    (boxed : ∀ state inner copied later, onValue state inner copied later →
      onValue state (.boxed inner) (.boxed copied) later)
    (plain : ∀ state value, value.reference? = none → onValue state value value state)
    (state : Copying) (within : (state.pending origin).length ≤ bound) (value : Value) :
    onValue state value (copyValue object state within value).copied (copyValue object state within value).later := by
  induction value with
  | object reference => exact objects state within reference
  | boxed inner ih => exact boxed state inner _ _ ih
  | _ => exact plain state _ rfl

/-- To show something of copied fields it is enough to show it of each value, with the memo handed on. -/
theorem copyEntries_induction
    (values : ∀ state within value,
      onValue state value (copyValue object state within value).copied (copyValue object state within value).later)
    (nil : ∀ state, onEntries state [] [] state)
    (cons : ∀ state name value rest copied middle others later, onValue state value copied middle →
      onEntries middle rest others later → onEntries state ((name, value) :: rest) ((name, copied) :: others) later)
    (state : Copying) (within : (state.pending origin).length ≤ bound) (entries : List (String × Value)) :
    onEntries state entries (copyEntries object state within entries).copied
      (copyEntries object state within entries).later := by
  induction entries generalizing state with
  | nil => exact nil state
  | cons entry rest ih => exact cons state entry.1 entry.2 rest _ _ _ _ (values state within entry.2) (ih ..)

end Parts

/-- What the copy of every value has if it is handed on from the copies of parts: from a value in a box, from
the fields of an object that is met for the first time, and along fields. -/
theorem copy_induction (onValue : Copying → Value → Value → Copying → Prop)
    (onEntries : Copying → List (String × Value) → List (String × Value) → Copying → Prop)
    (copied : ∀ state reference copy, state.copies.get? reference.id = some copy →
      onValue state (.object reference) (.object { reference with id := copy }) state)
    (first : ∀ state reference fields later, state.copies.get? reference.id = none → reference.id < origin.size →
      onEntries (state.enter reference) (origin.fields reference.id).entries fields later →
      onValue state (.object reference) (.object (state.heap.next reference.className))
        (later.complete (state.heap.next reference.className) (.ofList fields)))
    (missing : ∀ state reference, origin.size ≤ reference.id →
      onValue state (.object reference) (.object reference) state)
    (boxed : ∀ state inner copied later, onValue state inner copied later →
      onValue state (.boxed inner) (.boxed copied) later)
    (plain : ∀ state value, value.reference? = none → onValue state value value state)
    (nil : ∀ state, onEntries state [] [] state)
    (cons : ∀ state name value rest copied middle others later, onValue state value copied middle →
      onEntries middle rest others later → onEntries state ((name, value) :: rest) ((name, copied) :: others) later)
    (state : Copying) (value : Value) :
    onValue state value (copyWhole origin state value).copied (copyWhole origin state value).later := by
  have objects : ∀ state reference,
      onValue state (.object reference) (.object (copyObject origin state reference).copied)
      (copyObject origin state reference).later := by
    intro state reference
    induction state, reference using copyObject.induct origin with
    | case1 state reference copy known =>
      obtain ⟨same, sameState⟩ := copyObject_of_copied origin known
      rw [same, sameState]
      exact copied state reference copy known
    | case2 state reference unknown inside ih =>
      obtain ⟨same, sameState⟩ := copyObject_of_first unknown inside
      rw [same, sameState]
      refine first state reference _ _ unknown inside (copyEntries_induction ?_ nil cons ..)
      exact copyValue_induction (fun state within reference => ih state within reference) boxed plain
    | case3 state reference unknown outside =>
      obtain ⟨same, sameState⟩ := copyObject_of_missing unknown (Nat.not_lt.1 outside)
      rw [same, sameState]
      exact missing state reference (Nat.not_lt.1 outside)
  exact copyValue_induction (fun state _ reference => objects state reference) boxed plain ..

end Induction

section Invariant

/-- Beside an object that was there its copy; beside a missing one, which has no copy, itself. -/
def renamed (origin : Heap) (state : Copying) (a b : Nat) : Prop :=
  state.copies.get? a = some b ∨ origin.size ≤ a ∧ a = b

/-- The copies that are noted are the new objects, and each is the copy of one object that was there. -/
structure Sound (origin : Heap) (state : Copying) : Prop where
  size : origin.size ≤ state.heap.size
  inside : ∀ a b, state.copies.get? a = some b → a < origin.size ∧ origin.size ≤ b ∧ b < state.heap.size
  distinct : ∀ a a' b, state.copies.get? a = some b → state.copies.get? a' = some b → a = a'
  onto : ∀ b, origin.size ≤ b → b < state.heap.size → ∃ a, state.copies.get? a = some b

/-- The state after a part has been copied. Nothing is lost or changed, and the objects that were given a copy
meanwhile have a complete one. -/
structure Extends (origin : Heap) (state later : Copying) : Prop where
  size : state.heap.size ≤ later.heap.size
  kept : ∀ a b, state.copies.get? a = some b → later.copies.get? a = some b
  fields : ∀ id < state.heap.size, later.heap.fields id = state.heap.fields id
  complete : ∀ a b, later.copies.get? a = some b → state.copies.get? a = some b ∨
    state.heap.size ≤ b ∧ Fields.Alike (renamed origin later) (origin.fields a) (later.heap.fields b)

theorem Extends.refl : Extends origin state state := ⟨Nat.le_refl _, fun _ _ => id, fun _ _ => rfl, fun _ _ => Or.inl⟩

theorem Extends.renamed (h : Extends origin state later) (a b : Nat) (same : state.renamed origin a b) :
    later.renamed origin a b :=
  same.imp_left (h.kept a b)

/-- What two parts of a copy add, they add together. -/
theorem Extends.trans (first : Extends origin state middle) (sound : Sound origin middle)
    (second : Extends origin middle later) : Extends origin state later := by
  have size := first.size
  refine ⟨Nat.le_trans size second.size, fun a b known => second.kept a b (first.kept a b known), ?_, ?_⟩
  · intro id inside
    rw [second.fields id (Nat.lt_of_lt_of_le inside size), first.fields id inside]
  · intro a b known
    rcases second.complete a b known with earlier | ⟨new, alike⟩
    · refine (first.complete a b earlier).imp_right fun ⟨new, alike⟩ => ⟨new, ?_⟩
      rw [second.fields b (sound.inside a b earlier).2.2]
      exact alike.mono fun _ _ same => same.mono second.renamed
    · exact Or.inr ⟨Nat.le_trans size new, alike⟩

theorem size_enter (original : Reference) : (state.enter original).heap.size = state.heap.size + 1 :=
  Heap.size_alloc original.className _

theorem fields_enter {id : Nat} (original : Reference) (old : id < state.heap.size) :
    (state.enter original).heap.fields id = state.heap.fields id :=
  (Heap.fields_alloc original.className _ id).trans (if_neg (Nat.ne_of_lt old))

theorem get?_copies_enter (original : Reference) (a : Nat) :
    (state.enter original).copies.get? a = if a = original.id then some state.heap.size else state.copies.get? a :=
  Table.get?_insert ..

/-- Entering an object keeps the memo sound: the copy is there, with its fields to come. -/
theorem Sound.enter (sound : Sound origin state) {original : Reference}
    (first : state.copies.get? original.id = none) (inside : original.id < origin.size) :
    Sound origin (state.enter original) := by
  have size := state.size_enter original
  have old := sound.size
  refine ⟨by omega, ?_, ?_, ?_⟩
  · intro a b known
    rw [get?_copies_enter] at known
    split at known
    · cases known
      omega
    · have := sound.inside a b known
      omega
  · intro a a' b known known'
    rw [get?_copies_enter] at known known'
    -- A copy that was noted before is an older object than the one that has just been created.
    split at known <;> split at known'
    · omega
    · cases known
      have := sound.inside _ _ known'
      omega
    · cases known'
      have := sound.inside _ _ known
      omega
    · exact sound.distinct a a' b known known'
  · intro b new within
    by_cases last : b = state.heap.size
    · exact ⟨original.id, by rw [get?_copies_enter, if_pos rfl, last]⟩
    · obtain ⟨a, known⟩ := sound.onto b new (by omega)
      have other : a ≠ original.id := by
        rintro rfl
        rw [first] at known
        cases known
      exact ⟨a, by rw [get?_copies_enter, if_neg other, known]⟩

theorem Sound.complete (sound : Sound origin state) (copy : Reference) (fields : Fields) :
    Sound origin (state.complete copy fields) := by
  have size : (state.complete copy fields).heap.size = state.heap.size := Heap.size_setFields ..
  exact ⟨size ▸ sound.size, fun a b known => size ▸ sound.inside a b known, sound.distinct,
    fun b new within => sound.onto b new (size ▸ within)⟩

theorem get?_enter_of_copied {original : Reference} (first : state.copies.get? original.id = none) {a b : Nat}
    (known : state.copies.get? a = some b) : (state.enter original).copies.get? a = some b := by
  rw [get?_copies_enter, if_neg, known]
  rintro rfl
  rw [first] at known
  cases known

/-- Entries with the same names and alike values. -/
abbrev EntriesAlike (pairing : Nat → Nat → Prop) (entries entries' : List (String × Value)) : Prop :=
  List.Forall₂ (fun entry entry' => entry.1 = entry'.1 ∧ Value.Alike pairing entry.2 entry'.2) entries entries'

/-- Fields that are made of the copies of all entries are alike to those that were copied. -/
theorem alike_ofList {pairing : Nat → Nat → Prop} {fields : Fields} {entries : List (String × Value)}
    (alike : EntriesAlike pairing fields.entries entries) : Fields.Alike pairing fields (.ofList entries) := by
  have names : fields.entries.map Prod.fst = entries.map Prod.fst := by
    generalize fields.entries = listed at alike
    induction alike with
    | nil => rfl
    | cons here _ ih => rw [List.map_cons, List.map_cons, here.1, ih]
  have ascending : (entries.map Prod.fst).Pairwise fun a b => compare a b = .lt :=
    names ▸ List.pairwise_map.2 fields.ascending
  rw [Fields.Alike, Table.Alike, Table.entries_ofList.2 (List.pairwise_map.1 ascending)]
  exact alike

/-- An object is complete when its fields have been copied since it was given a copy. -/
theorem Extends.object {reference : Reference} {fields : List (String × Value)}
    (first : state.copies.get? reference.id = none) (grown : Extends origin (state.enter reference) later)
    (alike : EntriesAlike (later.renamed origin) (origin.fields reference.id).entries fields) :
    Extends origin state (later.complete (state.heap.next reference.className) (.ofList fields)) := by
  have size := state.size_enter reference
  have larger := grown.size
  have changed (id : Nat) : (later.complete (state.heap.next reference.className) (.ofList fields)).heap.fields id =
      if state.heap.size = id ∧ id < later.heap.size then .ofList fields else later.heap.fields id :=
    Heap.fields_setFields ..
  refine ⟨?_, fun a b known => grown.kept a b (get?_enter_of_copied first known), ?_, ?_⟩
  · rw [Copying.complete, Heap.size_setFields]
    omega
  · intro id inside
    rw [changed, if_neg (by omega), grown.fields id (by omega), fields_enter reference inside]
  · intro a b known
    rcases grown.complete a b known with entered | ⟨new, alike⟩
    · rw [get?_copies_enter] at entered
      split at entered
      · rename_i same
        cases entered
        refine Or.inr ⟨Nat.le_refl _, ?_⟩
        rw [changed, if_pos ⟨rfl, by omega⟩, same]
        exact alike_ofList alike
      · exact Or.inl entered
    · refine Or.inr ⟨by omega, ?_⟩
      rw [changed, if_neg (by omega)]
      exact alike

/-- Whether a part has been copied to an alike one, in a sound state that extends the one before. -/
def Copied {α : Type} (alike : (Nat → Nat → Prop) → α → α → Prop) (origin : Heap) (state : Copying) (part copied : α)
    (later : Copying) : Prop :=
  Sound origin state → Sound origin later ∧ Extends origin state later ∧ alike (later.renamed origin) part copied

/-- By induction over the recursion: a copy is alike its original as far as the memo has come, and whole once
every entered object is left. -/
theorem copied_whole (origin : Heap) (state : Copying) (value : Value) : Copied Value.Alike origin state value
    (copyWhole origin state value).copied (copyWhole origin state value).later := by
  apply copy_induction (Copied Value.Alike origin) (Copied EntriesAlike origin)
  case copied =>
    intro state reference copy known sound
    exact ⟨sound, .refl, .object _ (Or.inl known)⟩
  case first =>
    intro state reference fields later first inside ih sound
    obtain ⟨soundLater, grown, alike⟩ := ih (sound.enter first inside)
    have known := grown.kept _ _ ((get?_copies_enter ..).trans (if_pos rfl))
    exact ⟨soundLater.complete _ _, grown.object first alike, .object _ (Or.inl known)⟩
  case missing =>
    intro state reference outside sound
    exact ⟨sound, .refl, .object _ (Or.inr ⟨outside, rfl⟩)⟩
  case boxed =>
    intro state inner copied later ih sound
    obtain ⟨soundLater, grown, alike⟩ := ih sound
    exact ⟨soundLater, grown, .boxed alike⟩
  case plain =>
    intro state value plain sound
    refine ⟨sound, .refl, Value.Alike.refl fun reference found => ?_⟩
    rw [plain] at found
    cases found
  case nil => exact fun state sound => ⟨sound, .refl, .nil⟩
  case cons =>
    intro state name value rest copied middle others later ih ihRest sound
    obtain ⟨soundMiddle, grown, alike⟩ := ih sound
    obtain ⟨soundLater, grownOn, alikeRest⟩ := ihRest soundMiddle
    exact ⟨soundLater, grown.trans soundMiddle grownOn, .cons ⟨rfl, alike.mono grownOn.renamed⟩ alikeRest⟩

/-- Whether no object but those of a set has been given a copy along with a part that refers to no other. -/
def CopiedWithin {α : Type} (objects : Nat → Prop) (within : α → Prop) (state : Copying) (part : α)
    (later : Copying) : Prop :=
  within part → ∀ a b, later.copies.get? a = some b → state.copies.get? a = some b ∨ objects a

/-- What a copy reaches stays within any set of objects that is closed under the fields. -/
theorem copied_within {objects : Nat → Prop} (onward : ∀ id, objects id → ∀ next ∈ origin.successors id, objects next)
    (state : Copying) (value : Value) :
    CopiedWithin objects (Value.Within objects) state value (copyWhole origin state value).later := by
  apply copy_induction (fun state value _ later => CopiedWithin objects (Value.Within objects) state value later)
    fun state entries _ later => CopiedWithin objects (fun entries => ∀ entry ∈ entries, Value.Within objects entry.2)
      state entries later
  case copied => exact fun state reference copy _ _ a b => Or.inl
  case first =>
    intro state reference fields later _ _ ih within a b known
    have here := within reference rfl
    have inFields : ∀ entry ∈ (origin.fields reference.id).entries, Value.Within objects entry.2 :=
      fun entry listed next found => onward _ here _ (Heap.mem_successors.2 ⟨entry, listed, next, found, rfl⟩)
    rcases ih inFields a b known with entered | led
    · rw [get?_copies_enter] at entered
      split at entered
      · rename_i same
        exact Or.inr (same ▸ here)
      · exact Or.inl entered
    · exact Or.inr led
  case missing => exact fun state reference _ _ a b => Or.inl
  case boxed => exact fun state inner copied later ih => ih
  case plain => exact fun state value _ _ a b => Or.inl
  case nil => exact fun state _ a b => Or.inl
  case cons =>
    intro state name value rest copied middle others later ih ihRest within a b known
    rcases ihRest (fun entry listed => within entry (List.mem_cons_of_mem _ listed)) a b known with earlier | led
    · exact ih (within (name, value) (List.mem_cons_self ..)) a b earlier
    · exact Or.inr led

end Invariant

end Copying

namespace Heap

variable {pairing : Nat → Nat → Prop} {original heap : Heap} {seen value : Value}

/-- The new object of each object that is copied along with a value. -/
def memo (heap : Heap) (value : Value) : Table Nat Nat := (Copying.copyWhole heap ⟨.empty, heap⟩ value).later.copies

theorem sound_start : Copying.Sound heap ⟨.empty, heap⟩ where
  size := Nat.le_refl _
  inside _ _ known := nomatch known
  distinct _ _ _ known := nomatch known
  onto _ new within := absurd within (Nat.not_lt.2 new)

theorem copy_sound (heap : Heap) (value : Value) :
    Copying.Sound heap ⟨heap.memo value, (heap.copy value).2⟩ ∧
      Copying.Extends heap ⟨.empty, heap⟩ ⟨heap.memo value, (heap.copy value).2⟩ ∧
      Value.Alike (Copying.renamed heap ⟨heap.memo value, (heap.copy value).2⟩) value (heap.copy value).1 :=
  Copying.copied_whole heap ⟨.empty, heap⟩ value sound_start

theorem size_copy : heap.size ≤ (heap.copy value).2.size := (copy_sound heap value).2.1.size

theorem fields_copy_of_lt {id : Nat} (old : id < heap.size) : (heap.copy value).2.fields id = heap.fields id :=
  (copy_sound heap value).2.1.fields id old

/-- A copied object has the fields of the one that it is the copy of, but for the objects in them. -/
theorem fields_copy {a b : Nat} (known : (heap.memo value).get? a = some b) :
    Fields.Alike (Copying.renamed heap ⟨heap.memo value, (heap.copy value).2⟩) (heap.fields a)
      ((heap.copy value).2.fields b) := by
  rcases (copy_sound heap value).2.1.complete a b known with none | ⟨_, alike⟩
  · cases none
  · exact alike

/-- No object is copied but those that the value leads to. -/
theorem memo_within {objects : Nat → Prop} (onward : ∀ id, objects id → ∀ next ∈ heap.successors id, objects next)
    (within : value.Within objects) {a b : Nat} (known : (heap.memo value).get? a = some b) : objects a := by
  rcases Copying.copied_within onward ⟨.empty, heap⟩ value within a b known with none | led
  · cases none
  · exact led

theorem isAssignable_copy (heap : Heap) (value : Value) (type : ValueType) :
    (heap.copy value).1.isAssignable type = value.isAssignable type :=
  (copy_sound heap value).2.2.isAssignable_eq type

theorem describe_copy (heap : Heap) (value : Value) : (heap.copy value).1.describe = value.describe :=
  (copy_sound heap value).2.2.describe_eq

/-- A value without an object is its own copy. -/
theorem copy_of_plain (heap : Heap) {value : Value} (plain : value.reference? = none) : (heap.copy value).1 = value :=
  (copy_sound heap value).2.2.eq_of_plain plain

/-- An object beside the copy that is made of its partner. -/
def copies (pairing : Nat → Nat → Prop) (heap : Heap) (value : Value) (a b : Nat) : Prop :=
  ∃ id, (heap.memo value).get? id = some b ∧ pairing a id

theorem new_of_copies {a b : Nat} (paired : copies pairing heap value a b) :
    heap.size ≤ b ∧ b < (heap.copy value).2.size := by
  obtain ⟨id, known, _⟩ := paired
  exact ((copy_sound heap value).1.inside id b known).2

theorem copies_oneToOne (oneToOne : OneToOne pairing) : OneToOne (copies pairing heap value) := by
  rintro a b a' b' ⟨id, known, paired⟩ ⟨id', known', paired'⟩
  rw [oneToOne paired paired']
  constructor
  · rintro rfl
    exact Option.some.inj (known.symm.trans known')
  · rintro rfl
    exact (copy_sound heap value).1.distinct id id' b known known'

/-- A copy has the content of what it was made of, in objects of its own. -/
theorem copy_alike (heaps : Heap.Paired pairing original heap) (alike : Value.Alike pairing seen value) :
    Heap.Paired (copies pairing heap value) original (heap.copy value).2 ∧
      Value.Alike (copies pairing heap value) seen (heap.copy value).1 := by
  -- What has a partner is no missing object, so that it has been renamed to its copy.
  have onward : ∀ a b, (∃ id, pairing a id ∧ Copying.renamed heap ⟨heap.memo value, (heap.copy value).2⟩ id b) →
      copies pairing heap value a b := by
    rintro a b ⟨id, paired, known | ⟨outside, _⟩⟩
    · exact ⟨id, known, paired⟩
    · exact absurd (heaps.inside a id paired).2 (Nat.not_lt.2 outside)
  refine ⟨⟨⟨copies_oneToOne heaps.oneToOne, ?_⟩, ?_⟩, ?_⟩
  · rintro a b ⟨id, known, paired⟩
    exact ((heaps.fields a id paired).symm.join (fields_copy known)).mono fun _ _ same => same.mono onward
  · intro a b paired
    have new := new_of_copies paired
    obtain ⟨id, _, partner⟩ := paired
    exact ⟨(heaps.inside a id partner).1, new.2⟩
  · exact (alike.symm.join (copy_sound heap value).2.2).mono onward

end Heap

end Faultline
