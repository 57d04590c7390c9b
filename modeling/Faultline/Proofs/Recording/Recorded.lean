import Faultline.Proofs.Recording.Loads

namespace Faultline

/-- Sites that a table knows, each with a number of its own. -/
structure Sites.Known (program : Program) (sites : Sites) (table : SiteTable) : Prop where
  found : ∀ {method index site}, program.Declares method → sites method index = some site →
    table.get? site.id = some site
  own : ∀ {method method' index index' site site'}, program.Declares method → program.Declares method' →
    sites method index = some site → sites method' index' = some site' → site.id = site'.id →
    method = method' ∧ index = index'

def Program.Unhooked (program : Program) : Prop :=
  ∀ method, program.Declares method → ∀ instruction ∈ method.code, ∀ type, instruction.opcode ≠ .callHook type

/-- An execution of an instruction of the program, observed as one of the sites. -/
def Load.Of (program : Program) (sites : Sites) (load : Load) : Prop :=
  program.Declares load.method ∧ sites load.method load.index = some load.site

/-- Two loads have one site id exactly when they are of one instruction. -/
theorem Load.Of.sameSite_iff {program : Program} {sites : Sites} {table : SiteTable}
    (known : Sites.Known program sites table) {load earlier : Load} (this : load.Of program sites)
    (that : earlier.Of program sites) :
    earlier.site.id = load.site.id ↔ load.isRepeat earlier := by
  simp only [isRepeat, Bool.and_eq_true, decide_eq_true_iff]
  constructor
  · intro same
    exact known.own that.1 this.1 that.2 this.2 same
  · rintro ⟨sameMethod, sameIndex⟩
    have site := that.2
    rw [sameMethod, sameIndex, this.2, Option.some.injEq] at site
    rw [site]

/-- A value with the content of what a load pushed, in objects out of reach of the program. -/
def Load.Kept (pairing : Nat → Nat → Prop) (heap : Heap) (load : Load) (value : Value) : Prop :=
  ∃ own, Heap.Paired own load.heap heap ∧ Value.Alike own load.value value ∧ ∀ a b, own a b → ∀ x, ¬ pairing x b

namespace Load.Kept

variable {pairing grown : Nat → Nat → Prop} {heap heap' later later' : Heap} {load : Load} {value : Value}

/-- What the program does afterwards does not reach it. -/
theorem evolves (h : Load.Kept pairing heap' load value)
    (onward : Heap.Evolves pairing heap heap' grown later later') :
    Load.Kept grown later' load value := by
  obtain ⟨own, heaps, alike, apart⟩ := h
  have still : ∀ a b, own a b → later'.fields b = heap'.fields b := by
    intro a b paired
    refine onward.right.fields b (heaps.inside a b paired).2 ?_
    rintro ⟨x, exposed⟩
    exact apart a b paired x exposed
  refine ⟨own, ⟨⟨heaps.oneToOne, ?_⟩, ?_⟩, alike, ?_⟩
  · intro a b paired
    rw [still a b paired]
    exact heaps.fields a b paired
  · intro a b paired
    have inside := heaps.inside a b paired
    have size := onward.right.size
    exact ⟨inside.1, by omega⟩
  · intro a b paired x exposed
    rcases onward.fresh x b exposed with old | ⟨_, new⟩
    · exact apart a b paired x old
    · have inside := heaps.inside a b paired
      omega

end Load.Kept

theorem Load.Kept.copy_right {pairing : Nat → Nat → Prop} {heap' : Heap} {load : Load} {value : Value}
    (h : Load.Kept pairing heap' load value) (other : Value) : Load.Kept pairing (heap'.copy other).2 load value := by
  have onward : Heap.Evolves pairing load.heap heap' pairing load.heap (heap'.copy other).2 := .copy_right other
  exact h.evolves onward

/-- A copy of the value shown is what the profile keeps of a load. -/
theorem Load.kept_copy {pairing : Nat → Nat → Prop} {heap' : Heap} {load : Load} {value : Value}
    (heaps : Heap.Paired pairing load.heap heap') (alike : Value.Alike pairing load.value value) :
    Load.Kept pairing (heap'.copy value).2 load (heap'.copy value).1 := by
  obtain ⟨copied, same⟩ := Heap.copy_alike heaps alike
  refine ⟨_, copied, same, ?_⟩
  intro a b made x exposed
  have inside := (heaps.inside x b exposed).2
  have new := (Heap.new_of_copies made).1
  omega

/-- A recorder in the middle of a test that it records, with the loads so far in its profile. -/
structure Recorder.Recording (table : SiteTable) (test : String) (related : Load → Value → Prop) (loads : List Load)
    (recorder : Recorder) : Prop where
  mode : recorder.mode = .recording
  sites : recorder.sites = table
  current : recorder.current = some test
  profile : ∃ profile, recorder.profiles.get? test = some profile ∧ profile.Counts loads ∧ profile.Lists related loads

namespace Recorder.Recording

variable {table : SiteTable} {test : String} {related : Load → Value → Prop} {loads : List Load}
  {recorder : Recorder}

theorem mono {related' : Load → Value → Prop} (h : Recording table test related loads recorder)
    (more : ∀ load value, related load value → related' load value) :
    Recording table test related' loads recorder := by
  obtain ⟨profile, found, counts, lists⟩ := h.profile
  exact ⟨h.mode, h.sites, h.current, profile, found, counts, lists.mono more⟩

theorem beginTest (recorder : Recorder) (recording : recorder.mode = .recording) :
    Recording recorder.sites test related [] (recorder.beginTest test) := by
  have started : recorder.beginTest test =
      { recorder with current := some test, profiles := recorder.profiles.insert test (.empty test) } := by
    simp only [Recorder.beginTest, recording]
  rw [started]
  exact ⟨recording, rfl, rfl, .empty test, Table.get?_insert_self .., Profile.counts_empty test,
    Profile.lists_empty test⟩

/-- A value that fits its site is accepted and passed on, and a copy of it goes into the profile. -/
theorem hook (h : Recording table test related loads recorder) {load : Load}
    (known : table.get? load.site.id = some load.site) {value : Value}
    (fits : value.isAssignable load.site.type) {heap : Heap}
    (own : ∀ earlier ∈ loads, earlier.site.id = load.site.id ↔ load.isRepeat earlier)
    (new : related load (heap.copy value).1) :
    ∃ recorder', Recorder.hook ⟨load.site.id, load.site.type, load.site.location⟩ value recorder heap =
        (.ok value, recorder', (heap.copy value).2) ∧
      Recording table test related (loads ++ [load]) recorder' := by
  obtain ⟨profile, found, counts, lists⟩ := h.profile
  have accepted : recorder.accept ⟨load.site.id, load.site.type, load.site.location⟩ value = .ok test := by
    simp only [accept, h.current, h.sites, known, fits]
    simp
  refine ⟨{ recorder with
    profiles := recorder.profiles.insert test
      (profile.record load.site.id load.site.type (heap.copy value).1) }, ?_, ?_⟩
  · simp only [Recorder.hook, observe, accepted, keep, h.mode, found, Option.getD_some]
    rfl
  · exact ⟨h.mode, h.sites, h.current, _, Table.get?_insert_self .., counts.record load _,
      lists.record counts new own⟩

end Recorder.Recording

/-- A state of the plain program and one of the program being recorded, after the same loads. -/
structure State.Recorded (program : Program) (sites : Sites) (table : SiteTable) (test : String) (loads : List Load)
    (pairing : Nat → Nat → Prop) (state : State Unit) (state' : State Recorder) : Prop where
  frames : List.Forall₂ (Frame.Matches (.within program) pairing) state.frames state'.frames
  memory : Memory.Paired pairing state.memory state'.memory
  recorder : Recorder.Recording table test (Load.Kept pairing state'.memory.heap) loads state'.hookState
  observed : ∀ load ∈ loads, load.Of program sites

/-- The same error on both sides, and not one that the hook brings about. -/
def RuntimeError.Unhooked (error error' : RuntimeError) : Prop := error' = error ∧ error.isOfHook = false

/-- Steps of the plain program and of the one being recorded that complete the same loads. -/
inductive Step.Recorded (program : Program) (sites : Sites) (table : SiteTable) (test : String) (loads : List Load) :
    Step Unit → Step Recorder → Prop
  | running {pairing : Nat → Nat → Prop} {state : State Unit} {state' : State Recorder}
      (related : State.Recorded program sites table test loads pairing state state') :
      Recorded program sites table test loads (.running state) (.running state')
  | halted {pairing : Nat → Nat → Prop} {result result' : Except RuntimeError (Option Value)} {last : State Unit}
      {last' : State Recorder} (same : Agree RuntimeError.Unhooked (Option.Rel (Value.Alike pairing)) result result')
      (memory : Memory.Paired pairing last.memory last'.memory)
      (recorder : Recorder.Recording table test (Load.Kept pairing last'.memory.heap) loads last'.hookState) :
      Recorded program sites table test loads (.halted result last) (.halted result' last')

section Steps

variable {program : Program} {sites : Sites} {table : SiteTable} {test : String} {limits : Limits} {loads : List Load}
  {pairing : Nat → Nat → Prop}

/-- Showing a fitting value to the recorder adds the load to the profile and changes nothing for the program. -/
theorem State.Recorded.shown (known : Sites.Known program sites table) {before later : State Unit}
    {later' : State Recorder} (related : State.Recorded program sites table test loads pairing later later')
    {frame : Frame} {callers : List Frame} (frames : before.frames = frame :: callers)
    (declared : program.Declares frame.method) {site : Site}
    (observed : sites frame.method frame.pointer = some site)
    (fits : ∀ load, before.load? sites later = some load → load.value.isAssignable load.site.type) :
    Step.Recorded program sites table test (loads ++ (before.load? sites later).toList) (.running later)
      (State.showTop Recorder.hook site later') := by
  obtain ⟨calls, ⟨heap, statics⟩, nothing⟩ := later
  obtain ⟨calls', ⟨heap', statics'⟩, recorder⟩ := later'
  obtain ⟨beside, memory, recording, earlier⟩ := related
  have unseen : Step.Recorded program sites table test (loads ++ (none : Option Load).toList)
      (.running ⟨calls, ⟨heap, statics⟩, nothing⟩)
      (.running ⟨calls', ⟨heap', statics'⟩, recorder⟩) := by
    rw [Option.toList_none, List.append_nil]
    exact .running ⟨beside, memory, recording, earlier⟩
  cases beside with
  | nil =>
    simp only [State.load?, frames] at fits ⊢
    exact unseen
  | @cons next next' rest rest' here waiting =>
    have stack := here.stack
    simp only [State.load?, frames, observed, State.showTop] at fits ⊢
    cases under : next.stack with
    | nil =>
      rw [under] at stack
      cases under' : next'.stack with
      | nil => exact unseen
      | cons => rw [under'] at stack; cases stack
    | cons value below =>
      rw [under] at stack
      cases under' : next'.stack with
      | nil => rw [under'] at stack; cases stack
      | cons value' below' =>
        simp only [under, under', Option.some.injEq, forall_eq'] at fits stack ⊢
        cases stack with
        | cons alike lower =>
          have fits' : value'.isAssignable site.type := (alike.isAssignable_eq site.type).trans fits
          have this : Load.Of program sites ⟨frame.method, frame.pointer, site, value, heap⟩ := ⟨declared, observed⟩
          obtain ⟨recorder', answered, recorded⟩ :=
            (recording.mono fun _ _ kept => kept.copy_right value').hook (known.found declared observed) fits'
              (fun load member => this.sameSite_iff known (earlier load member))
              (Load.kept_copy memory.toPaired alike)
          have resumed : Frame.Matches (.within program) pairing next { next' with stack := value' :: below' } :=
            ⟨⟨here.args, here.locals, under ▸ .cons alike lower⟩, here.place⟩
          simp only [State.consult, fits', Bool.not_true, Bool.and_false, Bool.false_eq_true, if_false]
          rw [answered]
          simp only [fits', if_true]
          refine .running ⟨.cons resumed waiting, ⟨memory.toPaired.copy_right value', memory.statics⟩, recorded, ?_⟩
          intro load member
          rcases List.mem_append.1 member with before | new
          · exact earlier load before
          · rw [Option.toList_some, List.mem_singleton] at new
            exact new ▸ this

/-- A step of the program being recorded does what the plain one does, and records the load that this completes. -/
theorem State.Recorded.step (known : Sites.Known program sites table) (unhooked : program.Unhooked)
    {state : State Unit} {state' : State Recorder}
    (related : State.Recorded program sites table test loads pairing state state')
    (fits : ∀ load ∈ State.loads (State.step program passThrough limits) sites 1 state,
      load.value.isAssignable load.site.type) :
    Step.Recorded program sites table test
      (loads ++ State.loads (State.step program passThrough limits) sites 1 state)
      (State.step program passThrough limits state)
      (State.watched (State.step program Recorder.hook limits) sites (State.showTop Recorder.hook) state') := by
  obtain ⟨frames, memory, nothing⟩ := state
  obtain ⟨frames', memory', recorder⟩ := state'
  have stepped :
      Step.Beside program RuntimeError.Unhooked (fun _ _ recorder' => recorder' = recorder) pairing memory.heap
      memory'.heap (State.step program passThrough limits ⟨frames, memory, nothing⟩)
      (State.step program Recorder.hook limits ⟨frames', memory', recorder⟩) := by
    refine State.step_beside (fun _ own => ⟨rfl, own⟩) ?_ related.frames related.memory ?_
    · intro _ _
      rfl
    · intro _ _ _ _ instruction type declared member opcode
      exact absurd opcode (unhooked _ declared instruction member type)
  simp only [State.loads, State.watched] at fits ⊢
  generalize State.step program passThrough limits ⟨frames, memory, nothing⟩ = step at fits stepped ⊢
  generalize State.step program Recorder.hook limits ⟨frames', memory', recorder⟩ = step' at stepped ⊢
  cases stepped with
  | @halted grown result result' last last' same memories recorder' evolves =>
    have ended : Step.Recorded program sites table test (loads ++ []) (.halted result last)
        (.halted result' last') := by
      rw [List.append_nil]
      subst recorder'
      exact .halted same memories (related.recorder.mono fun _ _ kept => kept.evolves evolves)
    cases frames' with
    | nil => exact ended
    | cons frame' callers' =>
      cases observed : sites frame'.method frame'.pointer with
      | none => simpa only [observed] using ended
      | some site => simpa only [observed, Step.andThen] using ended
  | @running grown later later' beside evolves =>
    have went : State.Recorded program sites table test loads grown later later' :=
      ⟨beside.frames, beside.memory, beside.hooks ▸ related.recorder.mono fun _ _ kept =>
        kept.evolves evolves, related.observed⟩
    simp only [List.append_nil] at fits ⊢
    have calls := related.frames
    cases calls with
    | nil =>
      simp only [State.load?, Option.toList_none, List.append_nil]
      exact .running went
    | @cons frame frame' callers callers' here waiting =>
      obtain ⟨⟨sameMethod, samePointer⟩, declared⟩ := here.place
      simp only [sameMethod, samePointer]
      cases observed : sites frame.method frame.pointer with
      | none =>
        have unseen : State.load? sites ⟨frame :: callers, memory, nothing⟩ later = none := by
          simp only [State.load?]
          cases later.frames with
          | nil => rfl
          | cons next rest => simp only [observed]
        rw [unseen, Option.toList_none, List.append_nil]
        exact .running went
      | some site =>
        refine went.shown known rfl declared observed fun load seen => fits load ?_
        rw [seen, Option.toList_some]
        exact List.mem_singleton_self _

/-- So does a run of any length. -/
theorem State.Recorded.advance (known : Sites.Known program sites table) (unhooked : program.Unhooked) (count : Nat)
    {state : State Unit} {state' : State Recorder}
    (related : State.Recorded program sites table test loads pairing state state')
    (fits : ∀ load ∈ State.loads (State.step program passThrough limits) sites count state,
      load.value.isAssignable load.site.type) :
    Step.Recorded program sites table test
      (loads ++ State.loads (State.step program passThrough limits) sites count state)
      (State.advance (State.step program passThrough limits) count state)
      (State.advance
        (State.watched (State.step program Recorder.hook limits) sites (State.showTop Recorder.hook)) count
        state') := by
  induction count generalizing loads pairing state state' with
  | zero =>
    rw [State.loads, List.append_nil]
    exact .running related
  | succ count ih =>
    have first := State.loads_subset (State.step program passThrough limits) sites 1 count state
    rw [Nat.add_comm 1] at first
    have stepped := related.step known unhooked fun load member => fits load (first member)
    simp only [State.loads, State.advance] at fits stepped ⊢
    generalize State.step program passThrough limits state = step at fits stepped ⊢
    generalize State.watched (State.step program Recorder.hook limits) sites
      (State.showTop Recorder.hook) state' = step' at stepped ⊢
    cases stepped with
    | halted same memory recorder => exact .halted same memory recorder
    | running went =>
      simp only [List.append_nil, Step.andThen, ← List.append_assoc] at went ⊢
      exact ih went fun load member => fits load (List.mem_append_right _ member)

end Steps

end Faultline
