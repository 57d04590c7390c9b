import Faultline.Machine.Program
import Faultline.Proofs.Lists
import Faultline.Proofs.Machine.Dispatch
import Faultline.Proofs.Site.Numbering

namespace Faultline

/-- How many instructions come behind each one when the loads that are sites are followed by hook calls. -/
def hookLength (sites : Nat → Option Site) (index : Nat) : Nat := (sites index).elim 0 (·.type.hookLength)

/-- A method with hook calls behind the loads that are sites, and with its jumps adjusted. -/
structure Method.Hooked (sites : Nat → Option Site) (method hooked : Method) : Prop where
  declaration : { hooked with body := none } = { method with body := none }
  hasBody : hooked.body.isSome = method.body.isSome
  moved : ∀ index, hooked.code[relocate (hookLength sites) index]? =
    method.code[index]?.map (·.mapTarget (relocate (hookLength sites)))
  called : ∀ index site, sites index = some site → ∀ offset, offset < site.hookCode.length →
    hooked.code[relocate (hookLength sites) index + 1 + offset]?.map (·.opcode) = site.hookCode[offset]?
  located : ∀ index, locationAt hooked.code (relocate (hookLength sites) index) = locationAt method.code index
  observable : ∀ index site, sites index = some site →
    site.Fits ∧ ∃ instruction, method.code[index]? = some instruction ∧ instruction.opcode.isObservable

/-- A module with its methods hooked. -/
structure Module.Hooked (sites : Sites) (module hooked : Module) : Prop where
  name : hooked.name = module.name
  classes : hooked.classes = module.classes
  methods : List.Forall₂ (fun method hooked => Method.Hooked (sites method) method hooked) module.methods
    hooked.methods

namespace Method.Hooked

variable {sites : Nat → Option Site} {method hooked : Method}

/-- Without sites a method is its own instrumented form. -/
theorem unhooked (absent : ∀ index, sites index = none) : Method.Hooked sites method method := by
  have still : relocate (hookLength sites) = fun index => index := by
    funext index
    apply relocate_eq_self
    intro i _
    simp only [hookLength, absent i, Option.elim_none]
  refine ⟨rfl, rfl, ?_, ?_, ?_, ?_⟩
  · intro index
    simp only [still, Instruction.mapTarget, Opcode.mapTarget_id, Option.map_id']
  · intro index site present
    rw [absent index] at present
    cases present
  · intro index
    rw [still]
  · intro index site present
    rw [absent index] at present
    cases present

theorem owner_eq (h : Method.Hooked sites method hooked) : hooked.owner = method.owner :=
  congrArg (·.owner) h.declaration

theorem name_eq (h : Method.Hooked sites method hooked) : hooked.name = method.name := congrArg (·.name) h.declaration

theorem params_eq (h : Method.Hooked sites method hooked) : hooked.params = method.params :=
  congrArg (·.params) h.declaration

theorem locals_eq (h : Method.Hooked sites method hooked) : hooked.locals = method.locals :=
  congrArg (·.locals) h.declaration

theorem returns_eq (h : Method.Hooked sites method hooked) : hooked.returns = method.returns :=
  congrArg (·.returns) h.declaration

theorem isStatic_eq (h : Method.Hooked sites method hooked) : hooked.isStatic = method.isStatic :=
  congrArg (·.isStatic) h.declaration

theorem member_eq (h : Method.Hooked sites method hooked) : hooked.member = method.member := by
  simp only [Method.member, h.owner_eq, h.name_eq]

theorem qualifiedName_eq (h : Method.Hooked sites method hooked) : hooked.qualifiedName = method.qualifiedName := by
  simp only [Method.qualifiedName, h.member_eq]

theorem argCount_eq (h : Method.Hooked sites method hooked) : hooked.argCount = method.argCount := by
  simp only [Method.argCount, h.params_eq, h.isStatic_eq]

end Method.Hooked

section Numbered

variable {fields : FieldTypes}

namespace Sites

theorem numbered_of_notMem {loads : List (Member × Nat)} {first : UInt32} {method : Method} {index : Nat}
    (absent : (method.member, index) ∉ loads) : Sites.numbered fields loads first method index = none := by
  have nowhere : loads.idxOf? (method.member, index) = none := List.idxOf?_eq_none_iff.2 absent
  simp only [Sites.numbered, nowhere, Option.bind_eq_bind, Option.bind_none]

theorem numbered_append_left {front back : List (Member × Nat)} {first : UInt32} {method : Method}
    (absent : ∀ index, (method.member, index) ∉ back) :
    Sites.numbered fields (front ++ back) first method = Sites.numbered fields front first method := by
  funext index
  have nowhere : back.idxOf? (method.member, index) = none := List.idxOf?_eq_none_iff.2 (absent index)
  simp only [Sites.numbered, idxOf?_append, nowhere, Option.map_none, Option.or_none]

/-- A load that is not in the first part of the order is numbered in the second, after all of the first. -/
theorem numbered_append_right {front back : List (Member × Nat)} {first : UInt32} {method : Method}
    (absent : ∀ index, (method.member, index) ∉ front) :
    Sites.numbered fields (front ++ back) first method =
      Sites.numbered fields back (first + .ofNat front.length) method := by
  funext index
  have nowhere : front.idxOf? (method.member, index) = none := List.idxOf?_eq_none_iff.2 (absent index)
  simp only [Sites.numbered, idxOf?_append, nowhere, Option.none_or]
  cases back.idxOf? (method.member, index) with
  | none => rfl
  | some position =>
    simp only [Option.map_some, Option.bind_eq_bind, Option.bind_some, UInt32.ofNat_add, UInt32.add_assoc,
      UInt32.add_comm (UInt32.ofNat position)]

end Sites

end Numbered

namespace Method

variable {method : Method} {fields : FieldTypes} {next last : UInt32} {planned : List PlannedSite}

theorem loads_nodup : (method.loads fields).Nodup := List.nodup_range.filter _

theorem placed_zipIdx : ∀ entry ∈ method.code.toList.zipIdx, method.code[entry.2]? = some entry.1 := by
  intro entry member
  obtain ⟨instruction, index⟩ := entry
  rw [List.mem_zipIdx_iff_getElem?] at member
  rw [← Array.getElem?_toList]
  exact member

/-- A method's own plan: the indices are its loads. -/
theorem planned_indices (found : method.planSites fields method.code.toList.zipIdx next = (.ok planned, last)) :
    planned.map (·.index) = method.loads fields := by
  rw [(planSites_sound placed_zipIdx found).1, List.zipIdx_map_snd, List.range'_eq_map_range]
  simp [loads]

/-- The numbering by order of the loads finds the site that was planned for each. -/
theorem planned_find? (found : method.planSites fields method.code.toList.zipIdx next = (.ok planned, last))
    (index : Nat) :
    Sites.numbered fields ((method.loads fields).map fun index => (method.member, index)) next method index =
      (planned.find? (·.index = index)).map (·.site) := by
  have indices := planned_indices found
  have sound := (planSites_sound placed_zipIdx found).2.1
  cases search : planned.find? (·.index = index) with
  | none =>
    rw [List.find?_eq_none] at search
    apply Sites.numbered_of_notMem
    intro member
    simp only [List.mem_map, Prod.mk.injEq, true_and, exists_eq_right] at member
    rw [← indices, List.mem_map] at member
    obtain ⟨plan, listed, here⟩ := member
    exact search plan listed (by simpa using here)
  | some plan =>
    have here : plan.index = index := by simpa using List.find?_some search
    obtain ⟨position, listed⟩ := List.mem_iff_getElem?.1 (List.mem_of_find?_eq_some search)
    have planSound := sound position plan listed
    have atPosition : ((method.loads fields).map fun index => (method.member, index))[position]? =
        some (method.member, index) := by
      rw [← indices, List.getElem?_map, List.getElem?_map, listed]
      simp only [Option.map_some, here]
    have position? := idxOf?_eq_some_of_nodup (loads_nodup.map fun _ _ same => (Prod.mk.inj same).2) atPosition
    have type := planSound.type
    have location := planSound.location
    rw [here] at type location
    simp only [Sites.numbered, position?, type, location, Option.bind_eq_bind, Option.bind_some, Option.map_some]
    rw [← planSound.number, ← planSound.name]
    rfl

/-- Every load is a site of its own type, and nothing else is a site. -/
theorem numbered_type (found : method.planSites fields method.code.toList.zipIdx next = (.ok planned, last))
    (index : Nat) :
    (Sites.numbered fields ((method.loads fields).map fun index => (method.member, index)) next method
      index).map (·.type) =
      method.loadType? fields index := by
  rw [planned_find? found, Option.map_map]
  cases search : planned.find? (·.index = index) with
  | none =>
    have unplanned : index ∉ method.loads fields := by
      rw [← planned_indices found, List.mem_map]
      rintro ⟨plan, member, rfl⟩
      simpa using List.find?_eq_none.1 search plan member
    rw [mem_loads, Option.not_isSome_iff_eq_none] at unplanned
    rw [unplanned, Option.map_none]
  | some plan =>
    obtain ⟨position, listed⟩ := List.mem_iff_getElem?.1 (List.mem_of_find?_eq_some search)
    have here : plan.index = index := by simpa using List.find?_some search
    rw [Option.map_some, ← here, ((planSites_sound placed_zipIdx found).2.1 position plan listed).type]
    rfl

theorem isObservable_of_siteType? {index : Nat} {opcode : Opcode} {type : ValueType}
    (observed : method.siteType? fields index opcode = .ok (some type)) : opcode.isObservable := by
  cases opcode <;> first | rfl | cases observed

/-- Only instructions that are there and observable have a load type. -/
theorem exists_observable_of_loadType? {index : Nat} {type : ValueType}
    (observed : method.loadType? fields index = some type) :
    ∃ instruction, method.code[index]? = some instruction ∧ instruction.opcode.isObservable := by
  unfold loadType? at observed
  cases here : method.code[index]? with
  | none => simp only [here] at observed; cases observed
  | some instruction =>
    simp only [here] at observed
    cases kind : method.siteType? fields index instruction.opcode with
    | error failure => simp only [kind] at observed; cases observed
    | ok type? =>
      simp only [kind] at observed
      subst observed
      exact ⟨instruction, rfl, isObservable_of_siteType? kind⟩

/-- Planned sites are in ascending order and inside the code. -/
theorem insertable_of_planSites
    (found : method.planSites fields method.code.toList.zipIdx next = (.ok planned, last)) :
    Insertable method.code planned := by
  have indices := planned_indices found
  have sound : ∀ plan ∈ planned, ∃ number, plan.Sound method fields number := by
    intro plan member
    obtain ⟨position, listed⟩ := List.mem_iff_getElem?.1 member
    exact ⟨_, (planSites_sound placed_zipIdx found).2.1 position plan listed⟩
  refine ⟨?_, ?_, ?_, ?_⟩
  · rw [← List.pairwise_map (f := fun plan : PlannedSite => plan.index) (R := (· < ·)), indices]
    exact List.pairwise_lt_range.filter _
  · intro plan member
    have load : plan.index ∈ method.loads fields := indices ▸ List.mem_map_of_mem member
    simp only [loads, List.mem_filter, List.mem_range] at load
    exact load.1
  · intro plan member instruction inserted
    obtain ⟨number, planSound⟩ := sound plan member
    rw [planSound.sequence, List.mem_toArray, List.mem_map] at inserted
    obtain ⟨opcode, listed, rfl⟩ := inserted
    exact Site.target?_hookCode listed
  · intro plan member instruction inserted
    obtain ⟨number, planSound⟩ := sound plan member
    rw [planSound.sequence, List.mem_toArray, List.mem_map] at inserted
    obtain ⟨opcode, _, rfl⟩ := inserted
    exact Instruction.isHidden_hidden ..

/-- Inserting the planned sequences one by one, from the last, is inserting them all. -/
theorem code_insertSequences
    (found : method.planSites fields method.code.toList.zipIdx next = (.ok planned, last)) :
    (method.insertSequences planned).code = insertAll method.code planned := by
  rw [insertSequences_eq]
  cases present : method.body with
  | some body => simp only [code, mapCode, present, Option.map_some, Option.getD_some]
  | none =>
    have empty : method.code = #[] := by simp only [code, present, Option.getD_none]
    have unplanned : planned = [] := by
      simpa [loads, empty] using planned_indices found
    simp only [code, mapCode, present, unplanned, insertAll, Option.map_none, Option.getD_none, List.foldr_nil]

/-- What stands behind an instruction is as long by its site as by the plan. -/
theorem hookLength_eq_plannedLength
    (found : method.planSites fields method.code.toList.zipIdx next = (.ok planned, last)) :
    hookLength (Sites.numbered fields ((method.loads fields).map fun index => (method.member, index)) next method) =
      plannedLength planned := by
  funext index
  unfold hookLength plannedLength
  rw [planned_find? found]
  cases search : planned.find? (·.index = index) with
  | none => rfl
  | some plan =>
    obtain ⟨position, listed⟩ := List.mem_iff_getElem?.1 (List.mem_of_find?_eq_some search)
    have planSound := (planSites_sound placed_zipIdx found).2.1 position plan listed
    simp only [Option.map_some, Option.elim_some, Option.getD_some, planSound.size_sequence]

/-- Inserting what was planned for a method hooks it, with its sites numbered from the plan's first on. -/
theorem hooked_insertSequences
    (found : method.planSites fields method.code.toList.zipIdx next = (.ok planned, last)) :
    Method.Hooked (Sites.numbered fields ((method.loads fields).map fun index => (method.member, index)) next method)
      method (method.insertSequences planned) := by
  have insertable := insertable_of_planSites found
  have length := hookLength_eq_plannedLength found
  have code := code_insertSequences found
  have planOf : ∀ index site, Sites.numbered fields ((method.loads fields).map fun index => (method.member, index))
      next method index = some site → ∃ plan ∈ planned, plan.index = index ∧ plan.site = site ∧
        ∃ number, plan.Sound method fields number := by
    intro index site present
    rw [planned_find? found] at present
    obtain ⟨plan, search, rfl⟩ := Option.map_eq_some_iff.1 present
    have member := List.mem_of_find?_eq_some search
    obtain ⟨position, listed⟩ := List.mem_iff_getElem?.1 member
    exact ⟨plan, member, by simpa using List.find?_some search, rfl, _,
      (planSites_sound placed_zipIdx found).2.1 position plan listed⟩
  refine ⟨?_, ?_, ?_, ?_, ?_, ?_⟩
  · rw [insertSequences_eq]
    rfl
  · rw [insertSequences_eq]
    exact Option.isSome_map
  · intro index
    rw [length, code]
    exact insertable.getElem?_relocated index
  · intro index site present offset within
    obtain ⟨plan, member, rfl, rfl, number, sound⟩ := planOf index site present
    have size : plan.sequence.size = plan.site.hookCode.length := by
      rw [sound.sequence, List.size_toArray, List.length_map]
    rw [length, code, insertable.getElem?_sequence member (by omega), sound.sequence]
    rw [List.getElem?_toArray, List.getElem?_map, Option.map_map]
    exact Option.map_id'
  · intro index
    rw [length, code]
    exact insertable.locationAt_relocated index
  · intro index site present
    obtain ⟨plan, member, rfl, rfl, number, sound⟩ := planOf index site present
    exact ⟨sound.fits, exists_observable_of_loadType? sound.type⟩

/-- The planned sites of a method are those the numbering gives to its loads. -/
theorem mem_planned_sites
    (found : method.planSites fields method.code.toList.zipIdx next = (.ok planned, last)) {site : Site} :
    site ∈ planned.map (·.site) ↔ ∃ index,
      Sites.numbered fields ((method.loads fields).map fun index => (method.member, index)) next method
        index = some site := by
  simp only [planned_find? found, Option.map_eq_some_iff, List.mem_map]
  constructor
  · rintro ⟨plan, member, rfl⟩
    refine ⟨plan.index, plan, ?_, rfl⟩
    have some : (planned.find? (·.index = plan.index)).isSome := List.find?_isSome.2 ⟨plan, member, by simp⟩
    obtain ⟨other, search⟩ := Option.isSome_iff_exists.1 some
    have distinct : (planned.map (·.index)).Nodup := planned_indices found ▸ loads_nodup
    have same := List.inj_on_of_nodup_map distinct (List.mem_of_find?_eq_some search) member
      (by simpa using List.find?_some search)
    rw [search, same]
  · rintro ⟨index, plan, search, rfl⟩
    exact ⟨plan, List.mem_of_find?_eq_some search, rfl⟩

end Method

section Modules

variable {fields : FieldTypes}

/-- The observed loads of methods in the order of the text. -/
def loadsOf (fields : FieldTypes) (methods : List Method) : List (Member × Nat) :=
  methods.flatMap fun method => (method.loads fields).map fun index => (method.member, index)

theorem member_of_mem_loadsOf {methods : List Method} {member : Member} {index : Nat}
    (load : (member, index) ∈ loadsOf fields methods) : member ∈ methods.map Method.member := by
  simp only [loadsOf, List.mem_flatMap, List.mem_map, Prod.mk.injEq] at load
  obtain ⟨method, declared, _, _, rfl, _⟩ := load
  exact List.mem_map_of_mem declared

/-- Methods hooked at sites of the types of their loads, with the records of these sites. -/
structure MethodsHooked (fields : FieldTypes) (sites : Sites) (methods hooked : List Method)
    (records : List Site) : Prop where
  hooked : List.Forall₂ (fun method done => Method.Hooked (sites method) method done) methods hooked
  typed : ∀ method ∈ methods, ∀ index, (sites method index).map (·.type) = method.loadType? fields index
  recorded : ∀ site, site ∈ records ↔ ∃ method ∈ methods, ∃ index, sites method index = some site

namespace MethodsHooked

variable {sites sites' : Sites} {methods hooked : List Method} {records : List Site}

theorem nil : MethodsHooked fields sites [] [] [] := ⟨.nil, by simp, by simp⟩

/-- One more method in front, with its own records in front. -/
theorem cons (later : MethodsHooked fields sites methods hooked records) {method done : Method} {own : List Site}
    (here : Method.Hooked (sites method) method done)
    (typed : ∀ index, (sites method index).map (·.type) = method.loadType? fields index)
    (recorded : ∀ site, site ∈ own ↔ ∃ index, sites method index = some site) :
    MethodsHooked fields sites (method :: methods) (done :: hooked) (own ++ records) := by
  refine ⟨.cons here later.hooked, ?_, ?_⟩
  · intro other member
    rcases List.mem_cons.1 member with rfl | member
    · exact typed
    · exact later.typed other member
  · intro site
    rw [List.mem_append, recorded, later.recorded, List.exists_mem_cons_iff]

/-- Only the sites of the methods in the list matter. -/
theorem congr (h : MethodsHooked fields sites methods hooked records)
    (same : ∀ method ∈ methods, sites method = sites' method) :
    MethodsHooked fields sites' methods hooked records := by
  refine ⟨((List.forall₂_and_left _ _).2 ⟨same, h.hooked⟩).imp ?_, ?_, ?_⟩
  · rintro method done ⟨equal, this⟩
    rw [← equal]
    exact this
  · intro method member index
    rw [← same method member]
    exact h.typed method member index
  · intro site
    rw [h.recorded]
    refine exists_congr fun method => and_congr_right fun member => ?_
    rw [same method member]

end MethodsHooked

/-- A list of methods that was instrumented: the first with its plan, the others from the id it ended with. -/
theorem instrumentMethods_ok {method : Method} {rest : List Method} {next : UInt32} {records : List Site}
    (found : (instrumentMethods fields (method :: rest) next).sites = .ok records) :
    ∃ planned last listed, method.planSites fields method.code.toList.zipIdx next = (.ok planned, last) ∧
      (instrumentMethods fields rest last).sites = .ok listed ∧ records = planned.map (·.site) ++ listed ∧
      (instrumentMethods fields (method :: rest) next).methods =
        method.insertSequences planned :: (instrumentMethods fields rest last).methods ∧
      (instrumentMethods fields (method :: rest) next).next = (instrumentMethods fields rest last).next := by
  simp only [instrumentMethods] at found ⊢
  generalize method.planSites fields method.code.toList.zipIdx next = search at found ⊢
  obtain ⟨planned?, last⟩ := search
  cases planned? with
  | error failure => cases found
  | ok planned =>
    dsimp only at found ⊢
    cases listed : (instrumentMethods fields rest last).sites with
    | error failure => rw [listed] at found; cases found
    | ok later =>
      rw [listed] at found
      cases found
      exact ⟨planned, last, later, rfl, listed, rfl, rfl, rfl⟩

/-- Methods that are instrumented in order are hooked, with their sites numbered through. -/
theorem instrumentMethods_hooked {methods : List Method} {next : UInt32} {records : List Site}
    (distinct : (methods.map Method.member).Nodup)
    (found : (instrumentMethods fields methods next).sites = .ok records) :
    MethodsHooked fields (Sites.numbered fields (loadsOf fields methods) next) methods
        (instrumentMethods fields methods next).methods records ∧
      (instrumentMethods fields methods next).next = next + .ofNat (loadsOf fields methods).length := by
  induction methods generalizing next records with
  | nil =>
    cases found
    exact ⟨.nil, by simp [instrumentMethods, loadsOf]⟩
  | cons method rest ih =>
    obtain ⟨fresh, distinctRest⟩ := List.nodup_cons.1 distinct
    obtain ⟨planned, last, listed, search, laterFound, rfl, methods, finish⟩ := instrumentMethods_ok found
    obtain ⟨later, laterNext⟩ := ih distinctRest laterFound
    have front : loadsOf fields (method :: rest) =
        ((method.loads fields).map fun index => (method.member, index)) ++ loadsOf fields rest := List.flatMap_cons ..
    have onward : last = next + .ofNat (method.loads fields).length := by
      rw [(Method.planSites_sound Method.placed_zipIdx search).2.2, ← Method.planned_indices search, List.length_map]
    have here : Sites.numbered fields (loadsOf fields (method :: rest)) next method =
        Sites.numbered fields ((method.loads fields).map fun index => (method.member, index)) next method := by
      rw [front]
      apply Sites.numbered_append_left
      intro index load
      exact fresh (member_of_mem_loadsOf load)
    have there : ∀ other ∈ rest, Sites.numbered fields (loadsOf fields rest) last other =
        Sites.numbered fields (loadsOf fields (method :: rest)) next other := by
      intro other member
      rw [front, Sites.numbered_append_right, List.length_map, onward]
      intro index load
      simp only [List.mem_map, Prod.mk.injEq] at load
      obtain ⟨_, _, same, _⟩ := load
      exact fresh (same ▸ List.mem_map_of_mem member)
    rw [methods, finish, laterNext]
    refine ⟨(later.congr there).cons ?_ ?_ ?_, ?_⟩
    · rw [here]
      exact Method.hooked_insertSequences search
    · rw [here]
      exact Method.numbered_type search
    · intro site
      rw [here]
      exact Method.mem_planned_sites search
    · rw [onward, front, List.length_append, List.length_map, UInt32.ofNat_add, UInt32.add_assoc]

end Modules

end Faultline
