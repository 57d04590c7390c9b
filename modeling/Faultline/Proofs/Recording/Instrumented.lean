import Faultline.Proofs.Recording.Recorded
import Faultline.Proofs.Site.Fidelity

namespace Faultline

/-- A call of a test: without arguments, and with no static field stored. -/
abbrev Invocation.ofTest {σ : Type} (method : Member) (heap : Heap) (hookState : σ) : Invocation σ :=
  ⟨method, [], ⟨heap, .empty⟩, hookState⟩

/-- The observed loads that the first steps of an invocation complete. -/
def Program.loads (program : Program) (limits : Limits) (sites : Sites) (call : Invocation Unit)
    (count : Nat) : List Load :=
  match program.enter limits call.method call.args with
  | .error _ => []
  | .ok frames =>
    State.loads (State.step program passThrough limits) sites count ⟨frames, call.memory, call.hookState⟩

/-- The same outcome up to the identities of objects, errors being related as given, with a profile of the
loads in which objects are as they were when they were loaded, and out of the program's reach. -/
structure Outcome.Recorded (failures : RuntimeError → RuntimeError → Prop) (test : String)
    (pairing : Nat → Nat → Prop) (loads : List Load) (outcome : Outcome Unit)
    (outcome' : Outcome Recorder) : Prop where
  result : Agree failures (Option.Rel (Value.Alike pairing)) outcome.result outcome'.result
  memory : Memory.Paired pairing outcome.memory outcome'.memory
  profile : ∃ profile, outcome'.hookState.endTest.profiles.get? test = some profile ∧
    profile.Lists (Load.Kept pairing outcome'.memory.heap) loads

/-- The recorded outcome of a test, with a profile of all the loads of the plain run. -/
def Program.Records (program : Program) (limits : Limits) (sites : Sites)
    (failures : RuntimeError → RuntimeError → Prop) (test : String) (method : Member) (heap : Heap)
    (outcome : Outcome Unit) (outcome' : Outcome Recorder) : Prop :=
  ∃ pairing count, ∀ more, Outcome.Recorded failures test pairing
    (program.loads limits sites (.ofTest method heap ()) (count + more)) outcome outcome'

section Plain

variable {program : Program} {sites : Sites} {table : SiteTable} {limits : Limits}

theorem Recorder.Recording.outcome {test : String} {pairing : Nat → Nat → Prop} {loads : List Load}
    {result result' : Except RuntimeError (Option Value)} {memory memory' : Memory} {recorder : Recorder}
    (same : Agree RuntimeError.Unhooked (Option.Rel (Value.Alike pairing)) result result')
    (memories : Memory.Paired pairing memory memory')
    (recording : Recorder.Recording table test (Load.Kept pairing memory'.heap) loads recorder) :
    Outcome.Recorded RuntimeError.Unhooked test pairing loads ⟨result, memory, ()⟩ ⟨result', memory', recorder⟩ := by
  obtain ⟨profile, found, _, lists⟩ := recording.profile
  exact ⟨same, memories, profile, found, lists⟩

variable {recorder : Recorder} {method : Member} {heap : Heap}

theorem Program.loads_of_entered {frames : List Frame} (entered : program.enter limits method [] = .ok frames)
    (count : Nat) :
    program.loads limits sites (.ofTest method heap ()) count =
      State.loads (State.step program passThrough limits) sites count ⟨frames, ⟨heap, .empty⟩, ()⟩ := by
  simp only [loads, entered]

end Plain

/-- The same error, but for the instructions that it names having been moved, and not one that the hook brings
about. -/
def RuntimeError.MovedUnhooked (program : Program) (sites : Sites) (error error' : RuntimeError) : Prop :=
  RuntimeError.Moved program sites error error' ∧ error'.isOfHook = false

/-- An outcome recorded step by step is recorded as well when its indices are moved to the instrumented code.
-/
theorem Outcome.Recorded.moved {program : Program} {sites : Sites} {test : String} {pairing : Nat → Nat → Prop}
    {loads : List Load} {outcome : Outcome Unit} {outcome' hooked : Outcome Recorder}
    (recorded : Outcome.Recorded RuntimeError.Unhooked test pairing loads outcome outcome')
    (moved : Outcome.Moved program sites outcome' hooked) :
    Outcome.Recorded (RuntimeError.MovedUnhooked program sites) test pairing loads outcome hooked := by
  obtain ⟨result, memory, recorder⟩ := hooked
  obtain ⟨sameResult, sameMemory, sameRecorder⟩ := moved
  cases sameMemory
  cases sameRecorder
  refine ⟨(recorded.result.trans sameResult).mono ?_ fun _ _ => id, recorded.memory, recorded.profile⟩
  rintro error error'' ⟨_, ⟨rfl, own⟩, moved⟩
  refine ⟨moved, ?_⟩
  cases moved with
  | same => exact own
  | stackUnderflow => rfl
  | thrown => rfl

section Numbers

variable {modules rewritten : List Module} {program : Program} {positions : List Nat} {first last : UInt32}

/-- Every new site is recorded in the module of its load. -/
theorem mem_sites_of_observed (linked : Program.link modules = .ok program) (once : positions.Nodup)
    (rewriting : instrumentAt (fieldTypeIn? modules) positions modules first = .ok (rewritten, last))
    {method : Method} {index : Nat} {site : Site} (declared : program.Declares method)
    (observed : sitesAt modules positions first method index = some site) : site ∈ rewritten.flatMap (·.sites) := by
  have distinct : (declaredMethods modules).Nodup := Program.link_modules linked ▸ program.nodup
  obtain ⟨module, inModule, member⟩ := declared
  rw [Program.link_modules linked] at inModule
  obtain ⟨position, placed⟩ := List.mem_iff_getElem?.1 inModule
  have chosen : position ∈ positions := by
    by_contra unchosen
    rw [sitesAt, Sites.numbered_of_elsewhere distinct placed member unchosen] at observed
    cases observed
  obtain ⟨done, placed', instrumented⟩ :=
    (instrumentAt_hooked distinct once rewriting).hooked position chosen module placed
  exact List.mem_flatMap.2 ⟨done, List.mem_of_getElem? placed',
    (instrumented.methods.recorded site).2 ⟨method, member, index, observed⟩⟩

end Numbers

/-- A module with one test, which reads a variable. -/
def readingModule : Module :=
  { name := "Reading", optimized := false, debugInfo := .full, metadata := .empty, classes := [], sites := []
    methods := [
      { owner := "Tests", name := "reads", isStatic := true, params := [], locals := [.int32], returns := none
        attributes := ["Test"]
        body := some #[⟨.loadLocal 0, some ⟨"tests", 3, 3, 5, 9⟩⟩, ⟨.pop, none⟩, ⟨.return, none⟩] }] }

/-- A module with nothing but the record of a site. -/
def staleModule : Module :=
  { name := "Stale", optimized := false, debugInfo := .full, metadata := .empty, classes := [], methods := []
    sites := [⟨0, .string, ⟨"stale", 1, 1, 1, 2⟩, "Stale::old"⟩] }

/-- No module around the reading one declares a method that holds a hook call. -/
theorem readingModule_unhooked {program : Program} {others : List Module}
    (linked : Program.link (readingModule :: others) = .ok program) (empty : ∀ module ∈ others, module.methods = []) :
    program.Unhooked := by
  rintro method ⟨module, listed, declared⟩ instruction member type
  rw [Program.link_modules linked] at listed
  rcases List.mem_cons.1 listed with rfl | other
  · rw [readingModule, List.mem_singleton] at declared
    subst declared
    simp only [Method.code, Option.getD_some, List.mem_toArray, List.mem_cons, List.not_mem_nil, or_false] at member
    rcases member with rfl | rfl | rfl <;> exact Opcode.noConfusion
  · rw [empty module other] at declared
    cases declared

end Faultline
