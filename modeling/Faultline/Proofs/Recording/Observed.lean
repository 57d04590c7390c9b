import Faultline.Proofs.Recording.Recorded

namespace Faultline

/-- How boxing the value fails that a load pushed. -/
def Load.boxing (load : Load) : RuntimeError :=
  .typeMismatch "box" s!"{load.value.describe} is not {load.site.type.text}"

/-- A load of a primitive type that pushed a value of another one. -/
structure Load.Misfit (load : Load) : Prop where
  primitive : load.site.type.isPrimitive = true
  unassignable : load.value.isAssignable load.site.type = false

/-- A state of a program beside one of the same program being recorded, with nothing said of what was recorded. -/
abbrev State.BesideRecording (program : Program) (pairing : Nat → Nat → Prop) : State Unit → State Recorder → Prop :=
  State.Beside program (fun _ _ recorder => recorder.mode = .recording) pairing

/-- Steps of a program and of the same program being recorded, which may fail where the plain one goes on: in
a way that says nothing about the program, or because a load of a primitive type pushed a value of another
one. -/
inductive Step.Observed (program : Program) (loads : List Load) : Step Unit → Step Recorder → Prop
  | running {pairing : Nat → Nat → Prop} {state : State Unit} {state' : State Recorder}
      (related : State.BesideRecording program pairing state state') :
      Observed program loads (.running state) (.running state')
  | halted {pairing : Nat → Nat → Prop} {result result' : Except RuntimeError (Option Value)} {last : State Unit}
      {last' : State Recorder} (same : Agree Eq (Option.Rel (Value.Alike pairing)) result result') :
      Observed program loads (.halted result last) (.halted result' last')
  | inconclusive {step : Step Unit} {failure : RuntimeError} {last' : State Recorder}
      (telling : failure.isInconclusive = true) : Observed program loads step (.halted (.error failure) last')
  | misfit {step : Step Unit} {load : Load} {last' : State Recorder} (completed : load ∈ loads)
      (unfit : load.Misfit) : Observed program loads step (.halted (.error load.boxing) last')

theorem Step.Observed.mono {program : Program} {loads more : List Load} {step : Step Unit} {step' : Step Recorder}
    (h : Step.Observed program loads step step') (among : loads ⊆ more) : Step.Observed program more step step' := by
  cases h with
  | running related => exact .running related
  | halted same => exact .halted same
  | inconclusive telling => exact .inconclusive telling
  | misfit completed unfit => exact .misfit (among completed) unfit

/-- A recorder that records passes on every value that it accepts. -/
theorem Recorder.hook_recording {recorder : Recorder} (recording : recorder.mode = .recording)
    (point : HookPoint) (value : Value) (heap : Heap) :
    (∃ reason, Recorder.hook point value recorder heap = (.error reason, recorder, heap)) ∨
      ∃ recorder', Recorder.hook point value recorder heap = (.ok value, recorder', (heap.copy value).2) ∧
        recorder'.mode = .recording := by
  simp only [Recorder.hook, observe]
  cases recorder.accept point value with
  | error failure => exact Or.inl ⟨failure.message, rfl⟩
  | ok test =>
    simp only [keep, recording]
    exact Or.inr ⟨_, rfl, rfl⟩

section Steps

variable {program : Program} {sites : Sites} {pairing : Nat → Nat → Prop}

/-- A hook call in the program itself: what is recorded is what the plain run goes on with. -/
theorem State.observe_recording {frame frame' : Frame} {callers callers' : List Frame}
    {memory memory' : Memory} {recorder : Recorder} (recording : recorder.mode = .recording)
    (here : Frame.Matches (.within program) pairing frame frame')
    (waiting : List.Forall₂ (Frame.Matches (.within program) pairing) callers callers')
    (memories : Memory.Paired pairing memory memory') (type : ValueType) (loads : List Load) :
    Step.Observed program loads (State.observe passThrough type frame callers memory ())
      (State.observe Recorder.hook type frame' callers' memory' recorder) := by
  have popped := here.popHookCall type
  unfold State.observe
  generalize frame.popHookCall type = result at popped
  generalize frame'.popHookCall type = result' at popped
  cases popped with
  | error failing =>
    obtain ⟨rfl, _⟩ := failing
    exact .halted (.error rfl : Agree Eq (Option.Rel (Value.Alike pairing)) _ _)
  | @ok seen seen' same =>
    obtain ⟨⟨point, value⟩, rest⟩ := seen
    obtain ⟨⟨point', value'⟩, rest'⟩ := seen'
    obtain ⟨samePoint, alike, resting⟩ := same
    cases samePoint
    simp only at alike ⊢
    rcases Recorder.hook_recording recording point value' memory'.heap
      with ⟨reason, refused⟩ | ⟨recorder', kept, recording'⟩
    · simp only [refused]
      exact .inconclusive rfl
    · simp only [kept, passThrough, alike.isAssignable_eq type]
      split
      · exact .running ⟨.cons (resting.push alike.box) waiting,
          ⟨memories.toPaired.copy_right value', memories.statics⟩, recording'⟩
      · exact .inconclusive rfl

/-- Showing what a load pushed either lets the program go on with it or fails. -/
theorem State.showTop_recording {before later : State Unit} {later' : State Recorder} {frame : Frame}
    {callers : List Frame} {site : Site} {loads : List Load}
    (related : State.BesideRecording program pairing later later') (frames : before.frames = frame :: callers)
    (observed : sites frame.method frame.pointer = some site)
    (completed : ∀ load, before.load? sites later = some load → load ∈ loads) :
    Step.Observed program loads (.running later) (State.showTop Recorder.hook site later') := by
  obtain ⟨calls, memory, nothing⟩ := later
  obtain ⟨calls', memory', recorder⟩ := later'
  obtain ⟨beside, memories, recording⟩ := related
  cases beside with
  | nil => exact .running ⟨.nil, memories, recording⟩
  | @cons next next' rest rest' here waiting =>
    have stack := here.stack
    simp only [State.load?, frames, observed, State.showTop] at completed ⊢
    cases under : next.stack with
    | nil =>
      rw [under] at stack
      cases under' : next'.stack with
      | nil => exact .running ⟨.cons here waiting, memories, recording⟩
      | cons => rw [under'] at stack; cases stack
    | cons value below =>
      rw [under] at stack
      cases under' : next'.stack with
      | nil => rw [under'] at stack; cases stack
      | cons value' below' =>
        rw [under'] at stack
        simp only [under, Option.some.injEq, forall_eq'] at completed
        simp only
        cases stack with
        | cons alike lower =>
          rw [alike.isAssignable_eq site.type, alike.describe_eq]
          split
          · rename_i misfit
            simp only [Bool.and_eq_true, Bool.not_eq_true'] at misfit
            exact .misfit completed ⟨misfit.1, misfit.2⟩
          · simp only [State.consult]
            rcases Recorder.hook_recording recording ⟨site.id, site.type, site.location⟩ value' memory'.heap with
              ⟨reason, refused⟩ | ⟨recorder', kept, recording'⟩
            · simp only [refused]
              exact .inconclusive rfl
            · simp only [kept]
              split
              · have resumed :
                    Frame.Matches (.within program) pairing next { next' with stack := value' :: below' } :=
                  ⟨⟨here.args, here.locals, under ▸ .cons alike lower⟩, here.place⟩
                exact .running
                  ⟨.cons resumed waiting, ⟨memories.toPaired.copy_right value', memories.statics⟩, recording'⟩
              · exact .inconclusive rfl

/-- A step of the program being recorded, whatever the types of the values that the program handles. -/
theorem State.BesideRecording.step (limits : Limits) (sites : Sites) {state : State Unit} {state' : State Recorder}
    (related : State.BesideRecording program pairing state state') :
    Step.Observed program (State.loads (State.step program passThrough limits) sites 1 state)
      (State.step program passThrough limits state)
      (State.watched (State.step program Recorder.hook limits) sites (State.showTop Recorder.hook) state') := by
  obtain ⟨frames, memory, nothing⟩ := state
  obtain ⟨frames', memory', recorder⟩ := state'
  have beside : ∀ {step step'},
      Step.Beside program Eq (fun _ _ recorder => recorder.mode = .recording) pairing memory.heap
      memory'.heap step step' → Step.Observed program [] step step' := by
    intro step step' beside
    cases beside with
    | running onward => exact .running onward
    | halted same => exact .halted same
  have stepped : Step.Observed program [] (State.step program passThrough limits ⟨frames, memory, nothing⟩)
      (State.step program Recorder.hook limits ⟨frames', memory', recorder⟩) := by
    refine State.step_cases beside (fun _ _ => rfl) (fun _ => related.hooks) related.frames related.memory ?_
    intro frame frame' callers callers' instruction type _ _ _ here waiting
    exact State.observe_recording related.hooks here waiting related.memory type []
  have calls := related.frames
  simp only [State.loads, State.watched]
  generalize State.step program passThrough limits ⟨frames, memory, nothing⟩ = step at stepped
  generalize State.step program Recorder.hook limits ⟨frames', memory', recorder⟩ = step' at stepped
  cases calls with
  | nil => exact stepped.mono (List.nil_subset _)
  | @cons frame frame' callers callers' here waiting =>
    obtain ⟨⟨sameMethod, samePointer⟩, _⟩ := here.place
    simp only [sameMethod, samePointer]
    cases observed : sites frame.method frame.pointer with
    | none => exact stepped.mono (List.nil_subset _)
    | some site =>
      cases stepped with
      | halted same => exact .halted same
      | inconclusive telling => exact .inconclusive telling
      | misfit completed => cases completed
      | running onward =>
        have frames : (⟨frame :: callers, memory, nothing⟩ : State Unit).frames = frame :: callers := rfl
        refine State.showTop_recording onward frames observed fun load seen => ?_
        simp only [seen, Option.toList_some]
        exact List.mem_append_left _ (List.mem_singleton_self _)

/-- So does a run of any length. -/
theorem State.BesideRecording.advance (limits : Limits) (sites : Sites) (count : Nat) {state : State Unit}
    {state' : State Recorder} (related : State.BesideRecording program pairing state state') :
    Step.Observed program (State.loads (State.step program passThrough limits) sites count state)
      (State.advance (State.step program passThrough limits) count state)
      (State.advance
        (State.watched (State.step program Recorder.hook limits) sites (State.showTop Recorder.hook)) count
        state') := by
  induction count generalizing pairing state state' with
  | zero => exact .running related
  | succ count ih =>
    have stepped := State.BesideRecording.step limits sites related
    have among := State.loads_subset (State.step program passThrough limits) sites 1 count state
    rw [Nat.add_comm 1] at among
    simp only [State.loads, State.advance] at among stepped ⊢
    generalize State.step program passThrough limits state = step at among stepped ⊢
    generalize State.watched (State.step program Recorder.hook limits) sites
      (State.showTop Recorder.hook) state' = step' at stepped ⊢
    cases stepped with
    | halted same => exact .halted same
    | inconclusive telling => exact .inconclusive telling
    | misfit completed unfit => exact .misfit (among completed) unfit
    | running onward => exact (ih onward).mono (List.subset_append_right _ _)

end Steps

end Faultline
