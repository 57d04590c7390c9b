import Faultline.Proofs.Code.Survey
import Faultline.Proofs.Code.Symbols
import Faultline.Proofs.Site.SinglePass

namespace Faultline

/-! What the format can hold of an instrumented module. -/

/-- A site whose document and type are not too long for the format. -/
structure Site.Short (site : Site) : Prop where
  document : TextFits site.location.document
  type : site.type.Fits

theorem Site.Short.fits_hookCode {site : Site} (short : site.Short) : ∀ opcode ∈ site.hookCode, opcode.Fits :=
  forall_mem_hookCode short.type short.type short.document (fun _ => trivial) (fun _ => trivial) short.type

/-- A woven method fits the format once its targets are wrapped, when its code and its sites do. -/
theorem Method.fits_woven {method : Method} {sites : Nat → Option Site} (fits : method.Fits)
    (room : (method.woven sites).code.size < 2 ^ 32) (short : ∀ index site, sites index = some site → site.Short) :
    (method.woven sites).wrapped.Fits := by
  refine ⟨fits.owner, fits.name, fits.params, fits.locals, fits.returns, fits.attributes, ?_⟩
  intro code present
  unfold Method.wrapped Method.woven Method.mapCode at present
  unfold Method.woven Method.mapCode Method.code at room
  cases body : method.body with
  | none =>
    rw [body] at present
    cases present
  | some original =>
    rw [body] at present room
    cases present
    have small :
      (weave (movedBy (behindSites sites)) (behindSites sites) original.toList.zipIdx).length < 2 ^ 32 := room
    refine ⟨by rwa [Array.toList_map, List.length_map], ?_⟩
    rw [Array.toList_map, List.forall_mem_map]
    intro instruction member
    obtain ⟨entry, listed, rfl | hooking⟩ := mem_weave.1 member
    · have inside := List.fst_mem_of_mem_zipIdx listed
      exact Opcode.fits_wrapped ((fits.body original body).2 _ inside) _
    · unfold behindSites at hooking
      cases found : sites entry.2 with
      | none =>
        rw [found] at hooking
        cases hooking
      | some site =>
        rw [found] at hooking
        obtain ⟨opcode, among, rfl⟩ := List.mem_map.1 hooking
        have straight := Site.target?_hookCode among
        have whole := (short _ _ found).fits_hookCode opcode among
        rwa [Instruction.wrapped, Instruction.mapTarget, Instruction.hidden,
          Opcode.mapTarget_of_target?_none _ straight]

/-! What is read of it. -/

/-- Where jumps lead once the hooked method has been stored and loaded. One that stayed in the body leads
where it should, and one that left it still leaves it just if its new target fits the format. -/
def Method.Lands (move : Nat → Nat) (method hooked : Method) : Prop :=
  ∀ index instruction target, method.code[index]? = some instruction → instruction.opcode.target? = some target →
    (hooked.wrapped.bare.code[move index]?.bind fun found => found.opcode.target?) = some (move target % 2 ^ 32) ∧
    (target ≤ method.code.size → move target < 2 ^ 32) ∧
    (method.code.size ≤ target → (hooked.code.size ≤ move target % 2 ^ 32 ↔ move target < 2 ^ 32))

/-- The targets of a woven method land where the original's were carried, modulo `2 ^ 32`. -/
theorem Method.lands_woven {method : Method} {sites : Nat → Option Site} (fits : method.Fits)
    (room : (method.woven sites).code.size < 2 ^ 32)
    (alone : ∀ index, method.code.size ≤ index → behindSites sites index = [])
    (carried : method.Carried sites (method.woven sites)) :
    method.Lands (movedBy (behindSites sites)) (method.woven sites) := by
  intro index instruction target here aims
  have size := @Method.size_woven method sites
  have short : target < 2 ^ 32 := by
    have whole : instruction.opcode.Fits := by
      unfold code at here
      cases body : method.body with
      | none => rw [body] at here; cases here
      | some code =>
        rw [body] at here
        exact (fits.body code body).2 instruction (Array.mem_toList_iff.2 (Array.mem_of_getElem? here))
    cases opcode : instruction.opcode <;> rw [opcode] at aims whole <;> cases aims
    all_goals exact whole
  refine ⟨?_, fun within => ?_, fun beyond => ?_⟩
  · rw [code_wrapped_bare, Array.getElem?_map, (carried index).1, here, Option.map_some, Option.map_some,
      Option.bind_some]
    change (((instruction.opcode.mapTarget _).mapTarget _).target?) = _
    rw [Opcode.target?_mapTarget, Opcode.target?_mapTarget, aims]
    rfl
  · have := @movedBy_le (behindSites sites) _ _ within
    omega
  · have := movedBy_beyond alone beyond
    have : method.code.size ≤ movedBy (behindSites sites) method.code.size := Nat.le_add_right ..
    omega

namespace Module

variable {bytes : Bytes} {symbols : Symbols} {bare module done : Module} {fields : FieldTypes}
  {first last : UInt32} {records : List Site}

/-- A module instrumented in one pass fits the format once its targets are wrapped. -/
theorem SinglePass.fits_wrapped (single : module.SinglePass fields first done last records)
    (fits : module.Fits) (room : ∀ method ∈ done.methods, method.code.size < 2 ^ 32)
    (short : ∀ record ∈ records, record.Short) : done.wrapped.Fits := by
  have rest := single.rest
  have methods : ListFits Method.Fits done.wrapped.methods := by
    refine ⟨?_, ?_⟩
    · rw [wrapped, List.length_map, single.woven, List.length_mapIdx]
      exact fits.methods.1
    · rw [wrapped, List.forall_mem_map]
      intro hooked member
      have small := room hooked member
      rw [single.woven] at member
      obtain ⟨position, inside, rfl⟩ := List.mem_mapIdx.1 member
      refine Method.fits_woven (fits.methods.2 _ (List.getElem_mem inside)) small fun index site found =>
        short site ?_
      obtain ⟨place, -, listed⟩ := Option.bind_eq_some_iff.1 found
      exact List.mem_of_getElem? listed
  have name : done.name = module.name := congrArg (·.name) rest
  have metadata : done.metadata = module.metadata := congrArg (·.metadata) rest
  have classes : done.classes = module.classes := congrArg (·.classes) rest
  exact ⟨name ▸ fits.name, metadata ▸ fits.metadata, classes ▸ fits.classes, methods⟩

/-- An instrumented module is read from its binary with the targets of 2^32 and more wrapped around, and
otherwise as it was. So it is read exactly if there are none of these; a jump that stayed in its body still
leads where it should, and one that left it still leaves it just if its new target fits the format. -/
theorem decode_encode_instrumented (decoded : Module.decode bytes = .ok bare)
    (applied : symbols.applyTo bare = (module, .ok ()))
    (found : module.instrument fields first = (done, last, .ok records))
    (room : ∀ method ∈ done.methods, method.code.size < 2 ^ 32) (short : ∀ record ∈ records, record.Short) :
    Module.decode done.encode = .ok done.wrapped.bare ∧
    (done.wrapped.bare = done.bare ↔
      ∀ method ∈ done.methods, ∀ instruction ∈ method.code, ∀ target,
      instruction.opcode.target? = some target → target < 2 ^ 32) ∧
    ∀ position method, module.methods[position]? = some method → ∃ hooked, done.methods[position]? = some hooked ∧
      Method.Lands (movedBy (behindSites (recordAt? fields module.methods records position method)))
        method hooked := by
  obtain ⟨rest, after, -, read⟩ := decode_eq_ok.1 decoded
  obtain ⟨fits, -⟩ := Reader.module_eq_ok read
  rw [← fits_bare, ← Symbols.bare_applyTo applied, fits_bare] at fits
  have listed : (instrumentMethods fields module.methods first).sites = .ok records := congrArg (·.2.2) found
  obtain rfl : { module with methods := (instrumentMethods fields module.methods first).methods } = done :=
    congrArg (·.1) found
  have single := singlePass_of_sites listed
  refine ⟨decode_encode_wrapped (single.fits_wrapped fits room short), bare_wrapped_eq,
    fun position method placed => ?_⟩
  obtain ⟨hooked, there, carried⟩ := single.carried position method placed
  have woven := congrArg (·[position]?) single.woven
  simp only [List.getElem?_mapIdx, placed, there, Option.map_some] at woven
  cases woven
  exact ⟨_, there, Method.lands_woven (fits.methods.2 method (List.mem_of_getElem? placed))
    (room _ (List.mem_of_getElem? there)) (fun index => behindSites_recordAt?) carried⟩

end Module

/-- A module whose one method jumps as far past its end as the format can tell. -/
def leavingModule : Module :=
  { name := "A", optimized := false, debugInfo := .full, metadata := .empty, classes := [], sites := []
    methods := [
      { owner := "C", name := "m", isStatic := true, params := [], locals := [.int32], returns := none,
        attributes := []
        body := some #[⟨.loadLocal 0, some ⟨"a.src", 3, 3, 5, 9⟩⟩, ⟨.pop, none⟩, ⟨.jump 0xFFFFFFFF, none⟩] }] }

theorem leavingModule_read : Module.decode leavingModule.encode = .ok leavingModule.bare ∧
    leavingModule.symbols.applyTo leavingModule.bare = (leavingModule, .ok ()) :=
  ⟨Module.decode_of_fits (by decide), Module.symbols_applyTo_bare (by decide)⟩

theorem Module.decode_encode_instrumented_leaving : ∃ done last records,
    leavingModule.instrument (fieldTypeIn? [leavingModule]) 0 = (done, last, .ok records) ∧
    Module.decode done.encode = .ok done.wrapped.bare := by
  refine ⟨_, _, _, rfl, (decode_encode_instrumented leavingModule_read.1 leavingModule_read.2 rfl ?_ ?_).1⟩
  · with_unfolding_all decide
  · intro record member
    obtain rfl := List.mem_singleton.1 member
    exact ⟨by decide, trivial⟩

/-- The number of instructions in each body, with the targets of its jumps. -/
def Module.targets (module : Module) : List (Nat × List Nat) :=
  module.methods.map fun method => (method.code.size, method.code.toList.filterMap (·.opcode.target?))

/-- Once stored and loaded, the jump that left the body is one into the middle of the hook call. -/
theorem Module.decode_encode_instrumented_enters : ∃ done last records loaded,
    Module.decode leavingModule.encode = .ok leavingModule.bare ∧
    leavingModule.symbols.applyTo leavingModule.bare = (leavingModule, .ok ()) ∧
    leavingModule.instrument (fieldTypeIn? [leavingModule]) 0 = (done, last, .ok records) ∧
    (∀ method ∈ done.methods, method.code.size < 2 ^ 32) ∧
    Module.decode done.encode = .ok loaded ∧ loaded.methods ≠ done.methods.map Method.bare ∧
    leavingModule.targets = [(3, [0xFFFFFFFF])] ∧ done.targets = [(12, [0x100000008])] ∧
    loaded.targets = [(12, [8])] := by
  refine ⟨_, _, _, _, leavingModule_read.1, leavingModule_read.2, rfl, by with_unfolding_all decide,
    decode_encode_wrapped (by with_unfolding_all decide), ?_, ?_, ?_, ?_⟩
  all_goals with_unfolding_all decide

end Faultline
