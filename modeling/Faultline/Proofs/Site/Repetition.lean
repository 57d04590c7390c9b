import Faultline.Proofs.Site.Faults
import Faultline.Proofs.Site.StackNeutrality
import Mathlib.Data.List.Sort

namespace Faultline

/-- Every index is one to which an instruction moves or one of those that come behind it. -/
theorem exists_relocate (length : Nat → Nat) (place : Nat) :
    ∃ index, place = relocate length index ∨ ∃ offset < length index, place = relocate length index + 1 + offset := by
  induction place with
  | zero => exact ⟨0, Or.inl rfl⟩
  | succ place ih =>
    obtain ⟨index, rfl | ⟨offset, within, rfl⟩⟩ := ih
    · rcases Nat.eq_zero_or_pos (length index) with alone | followed
      · exact ⟨index + 1, Or.inl (by rw [relocate_succ, alone])⟩
      · exact ⟨index, Or.inr ⟨0, followed, rfl⟩⟩
    · rcases Nat.lt_or_eq_of_le within with more | last
      · exact ⟨index, Or.inr ⟨offset + 1, more, rfl⟩⟩
      · exact ⟨index + 1, Or.inl (by rw [relocate_succ]; omega)⟩

namespace Method

variable {method : Method} {fields : FieldTypes} {index : Nat} {opcode : Opcode}

/-- No instruction behind a site is a site itself. -/
theorem siteType?_hookCode {site : Site} (inserted : opcode ∈ site.hookCode) :
    method.siteType? fields index opcode = .ok none :=
  Site.forall_mem_hookCode (P := (method.siteType? fields index · = .ok none)) rfl rfl rfl (fun _ => rfl)
    (fun _ => rfl) rfl opcode inserted

theorem loadType?_eq_bind : method.loadType? fields index =
    method.code[index]?.bind fun instruction => (method.siteType? fields index instruction.opcode).toOption.join := by
  unfold loadType?
  cases method.code[index]? with
  | none => rfl
  | some instruction =>
    simp only [Option.bind_some]
    cases method.siteType? fields index instruction.opcode <;> rfl

namespace Hooked

variable {sites : Nat → Option Site} {hooked : Method}

/-- Classifying looks at the declaration and the opcode, and for the error alone at the place. -/
theorem toOption_siteType? (h : Method.Hooked sites method hooked) (fields : FieldTypes) (place index : Nat)
    (opcode : Opcode) (f : Nat → Nat) :
    (hooked.siteType? fields place (opcode.mapTarget f)).toOption =
      (method.siteType? fields index opcode).toOption := by
  have argument (slot : Nat) : hooked.argument? slot = method.argument? slot := by
    simp only [argument?, h.params_eq, h.isStatic_eq, h.owner_eq]
  cases opcode <;> simp only [Opcode.mapTarget, siteType?, h.locals_eq, argument] <;> (try split) <;> rfl

theorem loadType?_relocated (h : Method.Hooked sites method hooked) (fields : FieldTypes) (index : Nat) :
    hooked.loadType? fields (relocate (hookLength sites) index) = method.loadType? fields index := by
  rw [loadType?_eq_bind, loadType?_eq_bind, h.moved, Option.bind_map]
  congr 1
  funext instruction
  exact congrArg Option.join (h.toOption_siteType? fields _ _ _ _)

/-- The sequence behind a site, which is there at all only if there is a site. -/
theorem inserted (h : Method.Hooked sites method hooked) {offset : Nat}
    (within : offset < hookLength sites index) {instruction : Instruction}
    (here : hooked.code[relocate (hookLength sites) index + 1 + offset]? = some instruction) :
    ∃ site, sites index = some site ∧ instruction.opcode ∈ site.hookCode := by
  unfold hookLength at within
  cases present : sites index with
  | none =>
    rw [present] at within
    exact absurd within (Nat.not_lt_zero offset)
  | some site =>
    rw [present, Option.elim_some, ← Site.length_hookCode] at within
    have called := h.called index site present offset within
    rw [here, Option.map_some] at called
    exact ⟨site, rfl, List.mem_of_getElem? called.symm⟩

theorem loadType?_inserted (h : Method.Hooked sites method hooked) (fields : FieldTypes) {offset : Nat}
    (within : offset < hookLength sites index) :
    hooked.loadType? fields (relocate (hookLength sites) index + 1 + offset) = none := by
  rw [loadType?_eq_bind, Option.bind_eq_none_iff]
  intro instruction here
  obtain ⟨site, -, inserted⟩ := h.inserted within here
  rw [siteType?_hookCode inserted]
  rfl

/-- The loads of the hooked method are those of the method, moved. -/
theorem loads_eq (h : Method.Hooked sites method hooked) (fields : FieldTypes) :
    hooked.loads fields = (method.loads fields).map (relocate (hookLength sites)) := by
  have ascending (method : Method) : (method.loads fields).Pairwise (· < ·) := List.pairwise_lt_range.filter _
  refine List.Pairwise.eq_of_mem_iff (ascending hooked)
    ((ascending method).map _ fun index later before => ?_) fun place => ?_
  · exact Nat.lt_of_le_of_lt (Nat.le_add_right ..) (relocate_lt before)
  · rw [mem_loads, List.mem_map]
    constructor
    · intro load
      obtain ⟨index, rfl | ⟨offset, within, rfl⟩⟩ := exists_relocate (hookLength sites) place
      · exact ⟨index, mem_loads.2 (h.loadType?_relocated fields index ▸ load), rfl⟩
      · rw [h.loadType?_inserted fields within] at load
        cases load
    · rintro ⟨index, load, rfl⟩
      exact h.loadType?_relocated fields index ▸ mem_loads.1 load

/-- Nothing is wrong with a hooked method if nothing is wrong with the method. -/
theorem clear (h : Method.Hooked sites method hooked) (clear : ∀ index, method.Clear fields index) (place : Nat) :
    hooked.Clear fields place := by
  intro number failure faulty
  obtain ⟨index, rfl | ⟨offset, within, rfl⟩⟩ := exists_relocate (hookLength sites) place
  · have load := h.loadType?_relocated fields index
    have located := h.located index
    cases faulty with
    | @unclassified instruction failure here failed =>
      rw [h.moved, Option.map_eq_some_iff] at here
      obtain ⟨original, here, rfl⟩ := here
      have same := h.toOption_siteType? fields (relocate (hookLength sites) index) index original.opcode
        (relocate (hookLength sites))
      cases kind : method.siteType? fields index original.opcode with
      | error failure => exact clear index number _ (.unclassified here kind)
      | ok type =>
        rw [kind] at same
        simp only [Instruction.mapTarget] at failed
        rw [failed] at same
        cases same
    | unlocated load' hidden =>
      exact clear index number _
        (.unlocated (load ▸ load') (locationAt_eq_none.1 (located ▸ locationAt_eq_none.2 hidden)))
    | beyond load' located' beyond => exact clear index number _ (.beyond (load ▸ load') (located ▸ located') beyond)
  · have load := h.loadType?_inserted fields within
    cases faulty with
    | unclassified here failed =>
      obtain ⟨site, -, inserted⟩ := h.inserted within here
      cases (siteType?_hookCode inserted).symm.trans failed
    | unlocated load' => cases load.symm.trans load'
    | beyond load' => cases load.symm.trans load'

end Hooked

end Method

/-- Two loads of which a site has the same record, but for its number. -/
structure SameLoad (fields : FieldTypes) (load load' : Method × Nat) : Prop where
  type : load'.1.loadType? fields load'.2 = load.1.loadType? fields load.2
  location : locationAt load'.1.code load'.2 = locationAt load.1.code load.2
  name : load'.1.qualifiedName = load.1.qualifiedName

theorem SameLoad.records {fields : FieldTypes} {load load' : Method × Nat} {site : Site}
    (same : SameLoad fields load load') (record : site.Records fields load.1 load.2) :
    site.Records fields load'.1 load'.2 :=
  ⟨same.type.trans record.type, same.location.trans record.location, record.name.trans same.name.symm⟩

/-- A method that has the sites of another one in the places to which instrumenting moves them, and no other ones. -/
structure Method.Repeats (fields : FieldTypes) (method again : Method) : Prop where
  loads : again.loads fields = (method.loads fields).map (method.placeInstrumented fields)
  same : ∀ index, SameLoad fields (method, index) (again, method.placeInstrumented fields index)
  clear : ∀ place, again.Clear fields place

section Methods

variable {fields : FieldTypes} {next last : UInt32} {method : Method} {methods again : List Method}
  {planned : List PlannedSite} {records : List Site}

/-- What was planned for a method is found in it again. -/
theorem Method.repeats_insertSequences
    (found : method.planSites fields method.code.toList.zipIdx next = (.ok planned, last)) :
    Method.Repeats fields method (method.insertSequences planned) := by
  have hooked := hooked_insertSequences found
  have clear := hooked.clear (clear_of_planned found)
  have loads := hooked.loads_eq fields
  have same (index : Nat) : SameLoad fields (method, index) (method.insertSequences planned, relocate _ index) :=
    ⟨hooked.loadType?_relocated fields index, hooked.located index, hooked.qualifiedName_eq⟩
  rw [relocate_numbered found] at loads same
  exact ⟨loads, same, clear⟩

/-- A repeated method has the same loads in the same order. -/
theorem sameLoads (repeats : List.Forall₂ (Method.Repeats fields) methods again) :
    List.Forall₂ (SameLoad fields) (observedIn fields methods) (observedIn fields again) := by
  induction repeats with
  | nil => exact .nil
  | cons here _ ih =>
    rw [observedIn, observedIn, List.flatMap_cons, List.flatMap_cons, here.loads, List.map_map]
    refine List.rel_append ?_ ih
    rw [List.forall₂_map_left_iff, List.forall₂_map_right_iff, List.forall₂_same]
    exact fun index _ => here.same index

/-- Methods that repeat others have the records of the others, numbered anew. -/
theorem instrumentMethods_repeat (repeats : List.Forall₂ (Method.Repeats fields) methods again)
    (found : (instrumentMethods fields methods next).sites = .ok records) (second : UInt32) :
    (instrumentMethods fields again second).sites =
        .ok (records.mapIdx fun k record => { record with id := second + .ofNat k }) ∧
      (instrumentMethods fields again second).next = second + .ofNat records.length := by
  have clear : ∀ method ∈ again, ∀ index, method.Clear fields index := fun method member => by
    obtain ⟨_, _, here⟩ := forall₂_exists_left repeats member
    exact here.clear
  obtain ⟨records', found'⟩ : ∃ records, (instrumentMethods fields again second).sites = .ok records :=
    instrumentMethods_succeeds clear
  have reads : List.Forall₂ (fun record load => record.Records fields load.1 load.2) records
      (observedIn fields again) :=
    (forall₂_join (instrumentMethods_records found).flip (sameLoads repeats)).imp fun _ _ ⟨_, read, same⟩ =>
      same.records read
  have matched := forall₂_join (instrumentMethods_records found').flip reads.flip
  obtain ⟨ids, onward⟩ := instrumentMethods_ids found'
  have length : records'.length = records.length := matched.length_eq
  refine ⟨?_, by rw [onward, length]⟩
  rw [found']
  refine congrArg Except.ok (List.ext_getElem? fun k => ?_)
  rw [List.getElem?_mapIdx]
  rcases forall₂_getElem? matched k with ⟨none', none⟩ | ⟨site, record, here', here, load, read', read⟩
  · rw [none', none, Option.map_none]
  · have number := congrArg (·[k]?) ids
    simp only [List.getElem?_map, here', List.getElem?_range (List.getElem?_eq_some_iff.1 here').1, Option.map_some,
      Option.some.injEq] at number
    have type : site.type = record.type := Option.some.inj (read'.type.symm.trans read.type)
    have location : site.location = record.location := Option.some.inj (read'.location.symm.trans read.location)
    have name : site.method = record.method := read'.name.trans read.name.symm
    rw [here', here, Option.map_some, ← number, ← type, ← location, ← name]

end Methods

namespace Module

variable {fields : FieldTypes} {first last : UInt32} {module done : Module} {records : List Site}

/-- Instrumenting an instrumented module again finds its sites again, in the places to which the first time
moved them, and nothing else: the records are those of the first time, numbered anew. -/
theorem instrument_again (found : module.instrument fields first = (done, last, .ok records)) (second : UInt32) :
    List.Forall₂
      (fun method hooked => hooked.loads fields = (method.loads fields).map (method.placeInstrumented fields))
      module.methods done.methods ∧
    ∃ again, done.instrument fields second =
      (again, second + .ofNat records.length,
        .ok (records.mapIdx fun k record => { record with id := second + .ofNat k })) := by
  have listed : (instrumentMethods fields module.methods first).sites = .ok records := congrArg (·.2.2) found
  obtain rfl : { module with methods := (instrumentMethods fields module.methods first).methods } = done :=
    congrArg (·.1) found
  have repeats := instrumentMethods_forall₂ (fun _ _ _ _ => Method.repeats_insertSequences) listed
  obtain ⟨sites, next⟩ := instrumentMethods_repeat repeats listed second
  exact ⟨repeats.imp fun _ _ here => here.loads, _, by rw [instrument, sites, next]⟩

theorem instrument_again_kitchen : ∃ done last records,
    kitchenModule.instrument (fieldTypeIn? [kitchenModule]) 7 = (done, last, .ok records) ∧
      List.Forall₂ (fun method hooked => hooked.loads (fieldTypeIn? [kitchenModule]) =
          (method.loads (fieldTypeIn? [kitchenModule])).map (method.placeInstrumented (fieldTypeIn? [kitchenModule])))
        kitchenModule.methods done.methods ∧
      ∃ again, done.instrument (fieldTypeIn? [kitchenModule]) 20 = (again, 20 + .ofNat records.length,
        .ok (records.mapIdx fun k record => { record with id := 20 + .ofNat k })) :=
  ⟨_, _, _, rfl, instrument_again rfl 20⟩

end Module

end Faultline
