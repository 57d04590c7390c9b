import Faultline.Proofs.Search.Confinement

namespace Faultline

open Relation (ReflTransGen)

/-- A run of a test as an executor has it before it: the recorder that it can call, the objects, and the
values that it has hold of. -/
structure Scene where
  recorder : Recorder
  heap : Heap
  held : Value → Prop

/-- Whether a value refers to nothing but what can be come by from the values held. -/
def Scene.Knows (scene : Scene) (value : Value) : Prop := value.Within (scene.heap.Leads scene.held)

/-- What an executor can do next: get hold of what it can come by, create an object, change an object, or show
a value to the recorder and get hold of the answer. -/
inductive Scene.Move (scene : Scene) : Scene → Prop
  | takes {value : Value} (known : scene.Knows value) :
      Move scene { scene with held := fun other => scene.held other ∨ other = value }
  | creates (className : String) {fields : Fields} (known : ∀ value ∈ fields.values, scene.Knows value) :
      Move scene { scene with
        heap := (scene.heap.alloc className fields).2
        held := fun other => scene.held other ∨ other = .object (scene.heap.alloc className fields).1 }
  | changes {reference : Reference} (known : scene.Knows (.object reference)) {fields : Fields}
      (knownFields : ∀ value ∈ fields.values, scene.Knows value) :
      Move scene { scene with heap := scene.heap.setFields reference fields }
  | calls (point : HookPoint) {value : Value} (known : scene.Knows value) :
      Move scene {
        recorder := (Recorder.hook point value scene.recorder scene.heap).2.1
        heap := (Recorder.hook point value scene.recorder scene.heap).2.2
        held := fun other => scene.held other ∨ (Recorder.hook point value scene.recorder scene.heap).1 = .ok other }

/-- A run of a test, with what it was begun with. -/
structure Run (ε : Type) where
  test : String
  state : ε
  recorder : Recorder
  heap : Heap
  scene : Scene

variable {ε : Type}

/-- Whether an executor does nothing else in its runs, where `held` says what its states have hold of. -/
def Executor.Confined (executor : Executor ε) (held : ε → Value → Prop) : Prop :=
  ∀ test state recorder heap, ∃ result after, ∃ scene : Scene,
    executor.run Recorder.hook test state recorder heap = (result, after, scene.recorder, scene.heap) ∧
      ReflTransGen Scene.Move ⟨recorder, heap, held state⟩ scene ∧ ∀ value, held after value → scene.Knows value

/-- The runs of an executor, move by move. -/
def Executor.process (executor : Executor ε) (held : ε → Value → Prop) : Process ε (Run ε) where
  start test state recorder heap := ⟨test, state, recorder, heap, ⟨recorder, heap, held state⟩⟩
  step run later := ∃ scene, run.scene.Move scene ∧ later = { run with scene }
  ends run result after :=
    executor.run Recorder.hook run.test run.state run.recorder run.heap = (result, after, run.scene.recorder,
      run.scene.heap) ∧ ∀ value, held after value → run.scene.Knows value
  recorder run := run.scene.recorder
  heap run := run.scene.heap

section Clients

variable {executor : Executor ε} {held : ε → Value → Prop} {own kept : Nat → Prop} {scene later : Scene}

theorem Scene.Move.hooked (move : scene.Move later) : scene.recorder.Hooked later.recorder := by
  cases move with
  | calls point => exact Recorder.hooked_hook ..
  | _ => exact .refl _

/-- What an executor knows is within any closed set that its values are within. -/
theorem Scene.Knows.within {value : Value} (known : scene.Knows value) (closed : scene.heap.Closed own)
    (within : ∀ value, scene.held value → value.Within own) : value.Within own :=
  known.mono fun _ reached => reached.within closed within

/-- No move leads from an executor's own objects to those that are kept from it. -/
theorem Scene.Move.confined (move : scene.Move later) (split : scene.heap.Split own kept)
    (apart : scene.recorder.Apart own kept) (within : ∀ value, scene.held value → value.Within own) :
    ∃ own' kept', later.heap.Split own' kept' ∧
      scene.heap.Keeps own kept later.heap own' kept' ∧ later.recorder.Apart own' kept' ∧
      ∀ value, later.held value → value.Within own' := by
  have knows : ∀ {value : Value}, scene.Knows value → value.Within own := fun known =>
    known.within split.ownClosed within
  cases move with
  | takes known =>
    refine ⟨own, kept, split, .refl, apart, ?_⟩
    rintro value (earlier | rfl)
    · exact within value earlier
    · exact knows known
  | creates className known =>
    obtain ⟨parted, keeps⟩ := split.alloc className fun value listed => knows (known value listed)
    refine ⟨_, kept, parted, keeps, apart.mono keeps.ownGrows, ?_⟩
    rintro value (earlier | rfl)
    · exact (within value earlier).mono keeps.ownGrows
    · intro reference found
      cases found
      exact Or.inr rfl
  | changes known knownFields =>
    obtain ⟨parted, keeps⟩ := split.setFields (knows known _ rfl) fun value listed => knows (knownFields value listed)
    exact ⟨own, kept, parted, keeps, apart, within⟩
  | calls point known =>
    obtain ⟨kept', parted, keeps, records, answered⟩ := apart.hook split point (knows known)
    refine ⟨own, kept', parted, keeps, records, ?_⟩
    rintro value (earlier | answer)
    · exact within value earlier
    · exact answered value answer

theorem Executor.process_hooks (executor : Executor ε) (held : ε → Value → Prop) : (executor.process held).Hooks := by
  refine ⟨fun _ _ _ _ => rfl, fun _ _ _ _ => rfl, ?_⟩
  rintro run _ ⟨scene, move, rfl⟩
  exact move.hooked

/-- An executor whose moves are those ownership allows is confined to what it holds. -/
theorem Executor.process_confined (executor : Executor ε) (held : ε → Value → Prop) :
    (executor.process held).Confined (fun own state => ∀ value, held state value → value.Within own)
      (fun own run => ∀ value, run.scene.held value → value.Within own) where
  toHooks := executor.process_hooks held
  grows rest more value here := (rest value here).mono more
  begins _ _ _ rest := rest
  moves := by
    rintro own kept run _ ⟨scene, move, rfl⟩ split apart within
    exact move.confined split apart within
  returns ended closed within value here := (ended.2 value here).within closed within

/-- The moves of a confined executor lead from the start of each run to its end. -/
theorem Executor.Confined.performs (confined : executor.Confined held) :
    (executor.process held).Performs executor := by
  intro test state recorder heap
  obtain ⟨result, after, scene, ran, moves, known⟩ := confined test state recorder heap
  refine ⟨⟨test, state, recorder, heap, scene⟩, ?_, result, after, ⟨ran, known⟩, ran⟩
  exact moves.lift (fun scene => (⟨test, state, recorder, heap, scene⟩ : Run ε)) fun _ later move =>
    ⟨later, move, rfl⟩

end Clients

end Faultline
