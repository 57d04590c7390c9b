import Faultline.Proofs.Recording.Alike
import Faultline.Proofs.Recording.Instrumented
import Faultline.Proofs.Site.Stages

namespace Faultline

/-- The recorders that a history of operations makes of a new one: modes are chosen, overrides that the
recorder accepts are installed and taken back, tests begin and end, profiles are taken out, and hook calls
come in between. -/
inductive Recorder.Reached (table : SiteTable) : Recorder → Prop
  | new : Reached table (.new table)
  | switched {recorder : Recorder} (mode : Mode) (before : Reached table recorder) :
      Reached table { recorder with mode }
  | installed {recorder later : Recorder} {id : UInt32} {value : Value} (before : Reached table recorder)
      (accepted : recorder.install id value = .ok later) : Reached table later
  | uninstalled {recorder : Recorder} (id : UInt32) (before : Reached table recorder) :
      Reached table (recorder.uninstall id)
  | cleared {recorder : Recorder} (before : Reached table recorder) : Reached table recorder.clearOverrides
  | begun {recorder : Recorder} (test : String) (before : Reached table recorder) :
      Reached table (recorder.beginTest test)
  | ended {recorder : Recorder} (before : Reached table recorder) : Reached table recorder.endTest
  | taken {recorder : Recorder} (test : String) (before : Reached table recorder) :
      Reached table (recorder.takeProfile test).2
  | hooked {recorder : Recorder} (point : HookPoint) (value : Value) (heap : Heap) (before : Reached table recorder) :
      Reached table (Recorder.hook point value recorder heap).2.1

/-- A recorder with the given table whose overrides are of the types of their sites. -/
structure Recorder.Typed (table : SiteTable) (recorder : Recorder) : Prop where
  sites : recorder.sites = table
  overrides : ∀ id value, recorder.overrides.get? id = some value →
    ∃ site, table.get? id = some site ∧ value.isAssignable site.type

namespace Recorder

variable {table : SiteTable} {recorder : Recorder}

theorem overrides_keep (recorder : Recorder) (test : String) (point : HookPoint) (value observed : Value) :
    (recorder.keep test point value observed).2.overrides = recorder.overrides := by
  unfold keep
  split <;> rfl

/-- A hook call leaves everything but the profiles as it was. -/
theorem hook_keeps (recorder : Recorder) (point : HookPoint) (value : Value) (heap : Heap) :
    (Recorder.hook point value recorder heap).2.1.sites = recorder.sites ∧
      (Recorder.hook point value recorder heap).2.1.current = recorder.current ∧
      (Recorder.hook point value recorder heap).2.1.overrides = recorder.overrides := by
  simp only [Recorder.hook, observe]
  split
  · exact ⟨rfl, rfl, rfl⟩
  · exact ⟨sites_keep .., current_keep .., overrides_keep ..⟩

theorem Typed.hook (h : Typed table recorder) (point : HookPoint) (value : Value) (heap : Heap) :
    Typed table (Recorder.hook point value recorder heap).2.1 := by
  obtain ⟨sites, _, overrides⟩ := hook_keeps recorder point value heap
  exact ⟨sites.trans h.sites, fun id value found => h.overrides id value (overrides ▸ found)⟩

/-- An override that is accepted has the type of its site. -/
theorem Typed.install (h : Typed table recorder) {later : Recorder} {id : UInt32} {value : Value}
    (accepted : recorder.install id value = .ok later) : Typed table later := by
  unfold Recorder.install at accepted
  split at accepted
  · cases accepted
  · rename_i site known
    split at accepted
    · rename_i fits
      cases accepted
      refine ⟨h.sites, fun id' value' found => ?_⟩
      simp only [Table.get?_insert] at found
      split at found
      · rename_i same
        cases found
        exact ⟨site, same ▸ h.sites ▸ known, fits⟩
      · exact h.overrides id' value' found
    · cases accepted

theorem Typed.uninstall (h : Typed table recorder) (id : UInt32) : Typed table (recorder.uninstall id) := by
  refine ⟨h.sites, fun id' value found => ?_⟩
  simp only [Recorder.uninstall, Table.get?_erase] at found
  split at found
  · cases found
  · exact h.overrides id' value found

theorem Typed.clearOverrides (h : Typed table recorder) : Typed table recorder.clearOverrides :=
  ⟨h.sites, fun _ _ found => by cases found⟩

theorem Typed.beginTest (h : Typed table recorder) (test : String) : Typed table (recorder.beginTest test) := by
  unfold Recorder.beginTest
  split <;> exact ⟨h.sites, h.overrides⟩

/-- Every reached recorder is typed, by induction over what reached it. -/
theorem Reached.typed (reached : Reached table recorder) : Typed table recorder := by
  induction reached with
  | new => exact ⟨rfl, fun _ _ found => by cases found⟩
  | switched mode _ ih => exact ⟨ih.sites, ih.overrides⟩
  | installed _ accepted ih => exact ih.install accepted
  | uninstalled id _ ih => exact ih.uninstall id
  | cleared _ ih => exact ih.clearOverrides
  | begun test _ ih => exact ih.beginTest test
  | ended _ ih => exact ⟨ih.sites, ih.overrides⟩
  | taken test _ ih => exact ⟨ih.sites, ih.overrides⟩
  | hooked point value heap _ ih => exact ih.hook point value heap

/-- At a site of the right type, within a test, a value of the type is answered by one of the type, and any
other value is refused. -/
theorem Typed.hook_answer (h : Typed table recorder) (running : recorder.current.isSome) (point : HookPoint)
    {site : Site} (known : table.get? point.site = some site) (typed : site.type = point.type) (value : Value)
    (heap : Heap) :
    (value.isAssignable point.type → ∃ result recorder' heap',
      Recorder.hook point value recorder heap = (.ok result, recorder', heap') ∧ result.isAssignable point.type) ∧
    (value.isAssignable point.type = false → Recorder.hook point value recorder heap =
      (.error (RecorderError.valueType point.site point.type value.describe).message, recorder, heap)) := by
  obtain ⟨test, inTest⟩ := Option.isSome_iff_exists.1 running
  constructor
  · intro fits
    have accepted : recorder.accept point value = .ok test := by
      simp only [accept, inTest, h.sites, known, typed, bne_self_eq_false, Bool.false_eq_true, if_false,
        fits, if_true]
    simp only [Recorder.hook, observe, accepted, keep]
    cases recorder.mode with
    | recording => exact ⟨value, _, _, rfl, fits⟩
    | replay =>
      refine ⟨_, _, _, rfl, ?_⟩
      cases overridden : recorder.overrides.get? point.site with
      | none => exact fits
      | some override =>
        obtain ⟨site', known', fits'⟩ := h.overrides _ _ overridden
        cases known'.symm.trans known
        exact typed ▸ fits'
  · intro unfit
    have refused : recorder.accept point value = .error (.valueType point.site point.type value.describe) := by
      simp only [accept, inTest, h.sites, known, typed, bne_self_eq_false, Bool.false_eq_true, if_false, unfit]
    simp only [Recorder.hook, observe, refused]
    rfl

end Recorder

/-- The one way in which a hook call can fail: the load of a site of a reference type has pushed, six operands
earlier, a value that is not of the type, and the recorder refuses it. -/
inductive HookRefusal (program : Program) (sites : Sites) (next : State Recorder → Step Recorder)
    (start : State Recorder) :
    Nat → ValueType → Except RuntimeError (Option Value) → Prop
  | intro {before : Nat} {method : Method} {index : Nat} {site : Site} {loading loaded :
      State Recorder} {value : Value}
      (declared : program.Declares method) (observed : sites method index = some site)
      (reference : site.type.isPrimitive = false) (reached : State.advance next before start = .running loading)
      (placed : loading.place? = some (method.member, relocate (hookLength (sites method)) index))
      (load : next loading = .running loaded) (pushed : loaded.top? = some value)
      (unfit : value.isAssignable site.type = false) :
      HookRefusal program sites next start (before + 7) site.type
        (.error (.hook site.id (RecorderError.valueType site.id site.type value.describe).message))

section Protocol

variable {program hooked : Program} {sites : Sites} {limits : Limits} {start : State Recorder}

/-- A hook call that fails at a site which the recorder knows with its type. -/
theorem State.Phase.refusal {table : SiteTable} (unhooked : program.Unhooked)
    (known : ∀ method index site, program.Declares method → sites method index = some site →
      ∃ other, table.get? site.id = some other ∧ other.type = site.type) {count : Nat}
    {state last : State Recorder}
    (phase : State.Phase program hooked sites Recorder.hook limits start count state)
    (typed : state.hookState.Typed table) (running : state.hookState.current.isSome) {type : ValueType}
    (called : state.opcode? = some (.callHook type)) {result : Except RuntimeError (Option Value)}
    (fails : State.step hooked Recorder.hook limits state = .halted result last) :
    HookRefusal program sites (State.step hooked Recorder.hook limits) start count type result := by
  cases phase with
  | between related =>
    obtain ⟨ready, waiting, memory, hookState⟩ := related
    rename_i frame loading callers callers'
    change loading.method.code[loading.pointer]?.map (·.opcode) = _ at called
    rw [ready.fetch, Option.map_map] at called
    obtain ⟨instruction, fetched, opcode⟩ := Option.map_eq_some_iff.1 called
    exact absurd (Opcode.mapTarget_eq_callHook opcode)
      (unhooked frame.method ready.declared instruction (Array.mem_of_getElem? fetched) type)
  | @within before offset site frame loading value rest stack callers callers'
      memory memory' hookState
      hookState' observed ready waiting reached load inside stage =>
    obtain ⟨rfl, rfl, shown, opened, fits, rfl⟩ := stage.of_callHook (ready.holdsAt observed _) inside called
    obtain ⟨located, _⟩ := ready.hooked.observable _ _ observed
    obtain ⟨other, found, sameType⟩ := known frame.method frame.pointer site ready.declared observed
    obtain ⟨accepts, refuses⟩ :=
      typed.hook_answer running ⟨site.id, site.type, site.location⟩ found sameType value memory'.heap
    rw [State.step_hookCall located (ready.holdsAt observed _) opened] at fails
    unfold State.consult at fails
    cases fit : value.isAssignable site.type with
    | true =>
      obtain ⟨answer, recorder', heap', answered, suits⟩ := accepts fit
      simp only [answered, suits, if_true] at fails
      cases fails
    | false =>
      have reference : site.type.isPrimitive = false := by
        by_contra primitive
        rw [fits (by simpa using primitive)] at fit
        cases fit
      simp only [refuses fit] at fails
      cases fails
      have first : site.boxing = 0 := by simp only [Site.boxing, reference, Bool.false_eq_true, if_false]
      rw [first]
      refine .intro ready.declared observed reference reached ?_ load rfl fit
      simp only [State.place?, List.head?_cons, Option.map_some, ready.hooked.member_eq, ready.pointer]

/-- The rewriter, the interpreter and the recorder agree on hook calls. Whatever the types of the values that
a program handles, and whatever overrides the recorder has been given, a hook call in instrumented modules
fails only where a load of a reference type pushes a value that is not of the type, and an inserted unboxing
never does. No record of a site in the modules may have the number of a new site and another type. -/
theorem instrumentAt_hook_protocol {modules rewritten : List Module} {program : Program}
    {positions : List Nat} {first last : UInt32} (linked : Program.link modules = .ok program)
    (once : positions.Nodup)
    (rewriting : instrumentAt (fieldTypeIn? modules) positions modules first = .ok (rewritten, last))
    (unhooked : program.Unhooked)
    (undisputed : ∀ method index site, program.Declares method →
      sitesAt modules positions first method index = some site →
      ∀ other ∈ rewritten.flatMap (·.sites), other.id = site.id → other.type = site.type) :
    ∃ hooked, Program.link rewritten = .ok hooked ∧
      ∀ (recorder : Recorder) (limits : Limits) (entry : Member) (args : List Value) (memory :
        Memory) (frames : List Frame),
        recorder.Reached (.ofModules rewritten) → recorder.current.isSome →
        hooked.enter limits entry args = .ok frames →
        ∀ count state, State.advance (State.step hooked Recorder.hook limits) count
          ⟨frames, memory, recorder⟩ = .running state →
          (∀ type result last, state.opcode? = some (.callHook type) →
            State.step hooked Recorder.hook limits state = .halted result last →
            HookRefusal program (sitesAt modules positions first) (State.step hooked Recorder.hook limits)
              ⟨frames, memory, recorder⟩ count type result) ∧
          ∀ method index site, program.Declares method → sitesAt modules positions first method index = some site →
            site.type.isPrimitive →
            state.place? = some (method.member,
              relocate (hookLength (sitesAt modules positions first method)) index + site.hookCode.length) →
            ∃ later, State.step hooked Recorder.hook limits state = .running later := by
  obtain ⟨hooked, linked', programs⟩ := instrumentAt_links linked once rewriting
  refine ⟨hooked, linked',
    fun recorder limits entry args memory frames made running entered count state reached => ?_⟩
  have known : ∀ method index site, program.Declares method →
      sitesAt modules positions first method index = some site →
      ∃ other, (SiteTable.ofModules rewritten).get? site.id = some other ∧ other.type = site.type := by
    intro method index site declared observed
    have listed := mem_sites_of_observed linked once rewriting declared observed
    have entry : (site.id, site) ∈ (rewritten.flatMap (·.sites)).map fun site => (site.id, site) :=
      List.mem_map.2 ⟨site, listed, rfl⟩
    obtain ⟨other, found, also⟩ := Table.exists_get?_ofList entry
    obtain ⟨_, held, same⟩ := List.mem_map.1 also
    obtain ⟨sameId, rfl⟩ := Prod.mk.inj same
    exact ⟨_, found, undisputed method index site declared observed _ held sameId⟩
  have kept : Recorder.Typed (.ofModules rewritten) state.hookState ∧ state.hookState.current.isSome := by
    have throughout :
          Recorder.Typed (.ofModules rewritten) (State.advance (State.step hooked Recorder.hook limits) count
          ⟨frames, memory, recorder⟩).hookState ∧
        (State.advance (State.step hooked Recorder.hook limits) count
          ⟨frames, memory, recorder⟩).hookState.current.isSome :=
      State.advance_hookState (P := fun (recorder : Recorder) => recorder.Typed (.ofModules rewritten) ∧
        recorder.current.isSome) (fun point value recorder heap ⟨typed, running⟩ =>
          ⟨typed.hook point value heap, (Recorder.hook_keeps recorder point value heap).2.1 ▸ running⟩)
            ⟨made.typed, running⟩
    rwa [reached] at throughout
  have agree := programs.enter limits entry args
  cases entering : program.enter limits entry args with
  | error failure => rw [entering, entered] at agree; cases agree
  | ok original =>
    rw [entering, entered] at agree
    cases agree with
    | ok same =>
      obtain ⟨frame, frame', ready, rfl, rfl⟩ := same
      have phase := State.phase_of_advance programs (.intro ready .nil memory recorder) reached
      refine ⟨fun type result last called fails => phase.refusal unhooked known kept.1 kept.2 called fails, ?_⟩
      intro method index site declared observed primitive placed
      exact phase.unbox declared observed primitive placed

/-- A module with one test, which reads a variable of a reference type that holds a value of another one. -/
def mislabelledModule : Module :=
  { name := "Mislabelled", optimized := false, debugInfo := .full, metadata := .empty, classes := [], sites := []
    methods := [
      { owner := "Tests", name := "reads", isStatic := true, params := [], locals := [.string], returns := none
        attributes := ["Test"]
        body := some #[⟨.loadInt32 1, none⟩, ⟨.storeLocal 0, none⟩,
          ⟨.loadLocal 0, some ⟨"tests", 3, 3, 5, 9⟩⟩, ⟨.pop, none⟩, ⟨.return, none⟩] }] }

/-- An integer in a local that is declared to hold a string: the hook refuses it. -/
theorem instrumentAt_hook_protocol_mislabelled : ∃ program rewritten last hooked frames,
    Program.link [mislabelledModule] = .ok program ∧
    instrumentAt (fieldTypeIn? [mislabelledModule]) [0] [mislabelledModule] 0 = .ok (rewritten, last) ∧
    Program.link rewritten = .ok hooked ∧ hooked.enter {} ⟨"Tests", "reads"⟩ [] = .ok frames ∧
    HookRefusal program (sitesAt [mislabelledModule] [0] 0) (State.step hooked Recorder.hook {})
      ⟨frames, ⟨.empty, .empty⟩, (Recorder.new (.ofModules rewritten)).beginTest "Tests::reads"⟩ 9 .string
      (.error (.hook 0 (RecorderError.valueType 0 .string "int32").message)) := by
  obtain ⟨program, linked⟩ : ∃ program, Program.link [mislabelledModule] = .ok program := ⟨_, rfl⟩
  have unhooked : program.Unhooked := by
    rintro method ⟨module, listed, declared⟩ instruction member type
    rw [Program.link_modules linked] at listed
    rw [List.mem_singleton.1 listed, mislabelledModule, List.mem_singleton] at declared
    subst declared
    simp only [Method.code, Option.getD_some, List.mem_toArray, List.mem_cons, List.not_mem_nil, or_false] at member
    rcases member with rfl | rfl | rfl | rfl | rfl <;> exact Opcode.noConfusion
  obtain ⟨rewritten, last, hooked, frames, rewriting, linked', entered, sites, state, reached, called, refused⟩ :
      ∃ rewritten last hooked frames,
        instrumentAt (fieldTypeIn? [mislabelledModule]) [0] [mislabelledModule] 0 = .ok (rewritten, last) ∧
        Program.link rewritten = .ok hooked ∧ hooked.enter {} ⟨"Tests", "reads"⟩ [] = .ok frames ∧
        rewritten.flatMap (·.sites) = [⟨0, .string, ⟨"tests", 3, 3, 5, 9⟩, "Tests::reads"⟩] ∧
        ∃ state, State.advance (State.step hooked Recorder.hook {}) 9
            ⟨frames, ⟨.empty, .empty⟩, (Recorder.new (.ofModules rewritten)).beginTest "Tests::reads"⟩ =
            .running state ∧
          state.opcode? = some (.callHook .string) ∧
          (State.step hooked Recorder.hook {} state).result? =
            some (.error (.hook 0 (RecorderError.valueType 0 .string "int32").message)) := by
    refine ⟨_, _, _, _, rfl, rfl, rfl, rfl, Step.exists_of_goesOn ?_⟩
    with_unfolding_all decide
  have undisputed : ∀ method index site, program.Declares method →
      sitesAt [mislabelledModule] [0] 0 method index = some site → ∀ other ∈ rewritten.flatMap (·.sites),
      other.id = site.id →
        other.type = site.type := by
    intro method index site declared observed other held _
    have listed := mem_sites_of_observed linked (List.nodup_singleton 0) rewriting declared observed
    rw [sites, List.mem_singleton] at held listed
    rw [held, listed]
  obtain ⟨_, found, protocol⟩ :=
    instrumentAt_hook_protocol linked (List.nodup_singleton 0) rewriting unhooked undisputed
  cases linked'.symm.trans found
  have made : Recorder.Reached (.ofModules rewritten)
      ((Recorder.new (.ofModules rewritten)).beginTest "Tests::reads") :=
    .begun _ .new
  obtain ⟨final, fails⟩ := Step.halted_of_result? refused
  exact ⟨program, rewritten, last, hooked, frames, linked, rewriting, linked', entered,
    (protocol _ {} _ _ _ frames made rfl entered 9 state reached).1 .string _ final called fails⟩

/-- With the record of another site of the number in a module that is left alone, a hook call fails that sees
a value of its site's own type. -/
theorem instrumentAt_hook_protocol_stale : ∃ program rewritten last hooked frames,
    Program.link [readingModule, staleModule] = .ok program ∧ program.Unhooked ∧
    instrumentAt (fieldTypeIn? [readingModule, staleModule]) [0]
      [readingModule, staleModule] 0 = .ok (rewritten, last) ∧
    Program.link rewritten = .ok hooked ∧ hooked.enter {} ⟨"Tests", "reads"⟩ [] = .ok frames ∧
    ∃ state, State.advance (State.step hooked Recorder.hook {}) 8
        ⟨frames, ⟨.empty, .empty⟩, (Recorder.new (.ofModules rewritten)).beginTest "Tests::reads"⟩ = .running state ∧
      state.opcode? = some (.callHook .int32) ∧
      (State.step hooked Recorder.hook {} state).result? =
        some (.error (.hook 0 (RecorderError.siteType 0 .string .int32).message)) := by
  obtain ⟨program, linked⟩ : ∃ program, Program.link [readingModule, staleModule] = .ok program := ⟨_, rfl⟩
  have unhooked := readingModule_unhooked linked fun module other => by rw [List.mem_singleton.1 other]; rfl
  refine ⟨_, _, _, _, _, linked, unhooked, rfl, rfl, rfl, Step.exists_of_goesOn ?_⟩
  with_unfolding_all decide

end Protocol

end Faultline
