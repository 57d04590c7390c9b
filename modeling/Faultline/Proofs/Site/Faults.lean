import Faultline.Proofs.Site.SinglePass

namespace Faultline

/-- How many numbers are used up by an instruction at which instrumenting fails: a site has its number before
its coordinates are written. -/
def InstrumentError.taken : InstrumentError → Nat
  | .locationOutOfRange .. => 1
  | .noLocation .. | .classify .. => 0

/-- The first of the lines and columns, in the order in which they are written, that is no literal. -/
def Location.beyond? (location : Location) : Option UInt32 :=
  [location.startLine, location.endLine, location.startColumn, location.endColumn].find? (0x7FFFFFFF < ·)

theorem Location.not_beyond {value : UInt32} (small : value ≤ 0x7FFFFFFF) : decide (0x7FFFFFFF < value) = false :=
  decide_eq_false (UInt32.not_lt.2 small)

theorem Location.beyond?_of_fits {site : Site} (fits : site.Fits) : site.location.beyond? = none := by
  simp only [beyond?, List.find?_cons, List.find?_nil, not_beyond fits.startLine, not_beyond fits.endLine,
    not_beyond fits.startColumn, not_beyond fits.endColumn]

/-- The error of a site that cannot be written is about its first coordinate beyond the range. -/
theorem Site.hookSequence_error {site : Site} {failure : InstrumentError}
    (failed : site.hookSequence = .error failure) :
    ∃ value, site.location.beyond? = some value ∧ failure = .locationOutOfRange site.id value := by
  simp only [hookSequence, hookOpcodes, bind_assoc] at failed
  simp only [Location.beyond?, List.find?_cons]
  rcases literal_bind failed with ⟨startLine, ⟨⟩⟩ | ⟨startLine, failed⟩
  · exact ⟨_, by simp only [startLine, decide_true], rfl⟩
  rcases literal_bind failed with ⟨endLine, ⟨⟩⟩ | ⟨endLine, failed⟩
  · exact ⟨_, by simp only [Location.not_beyond startLine, endLine, decide_true], rfl⟩
  rcases literal_bind failed with ⟨startColumn, ⟨⟩⟩ | ⟨startColumn, failed⟩
  · exact ⟨_, by simp only [Location.not_beyond startLine, Location.not_beyond endLine, startColumn,
      decide_true], rfl⟩
  rcases literal_bind failed with ⟨endColumn, ⟨⟩⟩ | ⟨endColumn, failed⟩
  · refine ⟨_, ?_, rfl⟩
    simp only [Location.not_beyond startLine, Location.not_beyond endLine, Location.not_beyond startColumn,
      endColumn, decide_true]
  cases failed

/-- An instruction has no location exactly when none at or before it is visible. -/
theorem locationAt_eq_none {code : Array Instruction} {index : Nat} : locationAt code index = none ↔
    ∀ earlier ≤ index, ∀ instruction location, code[earlier]? = some instruction →
      instruction.location = some location → location.isHidden := by
  rw [locationAt_eq, List.findSome?_eq_none_iff]
  constructor
  · intro unseen earlier upTo instruction location here carried
    have among : instruction ∈ (code.toList.take (index + 1)).reverse := by
      rw [List.mem_reverse]
      exact List.mem_of_getElem? (i := earlier)
        (by rw [List.getElem?_take_of_lt (by omega), Array.getElem?_toList, here])
    have invisible := unseen instruction among
    rw [Instruction.visible?, carried] at invisible
    simpa [Option.filter] using invisible
  · intro hidden instruction among
    rw [List.mem_reverse, List.mem_iff_getElem?] at among
    obtain ⟨earlier, here⟩ := among
    rw [List.getElem?_take] at here
    split at here
    · rename_i before
      rw [Array.getElem?_toList] at here
      rw [Instruction.visible?]
      cases carried : instruction.location with
      | none => rfl
      | some location => simp [Option.filter, hidden earlier (by omega) instruction location here carried]
    · cases here

namespace Method

/-- What is wrong with an instruction at which instrumenting fails, if its site would have the number. -/
inductive Faulty (method : Method) (fields : FieldTypes) (number : UInt32) (index : Nat) : InstrumentError → Prop
  | unclassified {instruction : Instruction} {failure : ClassifyError} (here : method.code[index]? = some instruction)
      (failed : method.siteType? fields index instruction.opcode = .error failure) :
      Faulty method fields number index (.classify failure)
  | unlocated {type : ValueType} (load : method.loadType? fields index = some type)
      (hidden : ∀ earlier ≤ index, ∀ instruction location, method.code[earlier]? = some instruction →
        instruction.location = some location → location.isHidden) :
      Faulty method fields number index (.noLocation method.qualifiedName index)
  | beyond {type : ValueType} {location : Location} {value : UInt32}
      (load : method.loadType? fields index = some type)
      (located : locationAt method.code index = some location) (beyond : location.beyond? = some value) :
      Faulty method fields number index (.locationOutOfRange number value)

/-- Nothing is wrong with an instruction, whatever number its site has. -/
def Clear (method : Method) (fields : FieldTypes) (index : Nat) : Prop :=
  ∀ number failure, ¬ method.Faulty fields number index failure

variable {method : Method} {fields : FieldTypes} {next last : UInt32} {instruction : Instruction} {index : Nat}
  {failure : InstrumentError} {rest entries : List (Instruction × Nat)}

/-- Nothing is wrong with an instruction that is classified and whose location, if it is a site, is known and
can be written. -/
theorem clear_of_siteType? (here : method.code[index]? = some instruction) {type : Option ValueType}
    (kind : method.siteType? fields index instruction.opcode = .ok type)
    (written : type.isSome → ∃ location, locationAt method.code index = some location ∧ location.beyond? = none) :
    method.Clear fields index := by
  intro number failure faulty
  have load := loadType?_eq here kind
  cases faulty with
  | unclassified here' failed =>
    cases here.symm.trans here'
    cases kind.symm.trans failed
  | unlocated load' hidden =>
    obtain ⟨location, located, -⟩ := written (load ▸ Option.isSome_of_eq_some load')
    rw [locationAt_eq_none.2 hidden] at located
    cases located
  | beyond load' located beyond =>
    obtain ⟨location, located', within⟩ := written (load ▸ Option.isSome_of_eq_some load')
    cases located.symm.trans located'
    cases within.symm.trans beyond

/-- How many of the instructions are sites. -/
def siteCount (method : Method) (fields : FieldTypes) (indices : List Nat) : Nat :=
  indices.countP fun index => (method.loadType? fields index).isSome

/-- Planning either stops at the first instruction, at fault, or goes on behind it, with the next number if it
is a site. -/
theorem planSites_cons (here : method.code[index]? = some instruction) :
    (∃ failure, method.Faulty fields next index failure ∧
      method.planSites fields ((instruction, index) :: rest) next = (.error failure, next + .ofNat failure.taken)) ∨
    (method.Clear fields index ∧ ∃ add : List PlannedSite → List PlannedSite,
      method.planSites fields ((instruction, index) :: rest) next =
        ((method.planSites fields rest (next + .ofNat (method.siteCount fields [index]))).1.map add,
          (method.planSites fields rest (next + .ofNat (method.siteCount fields [index]))).2)) := by
  have count {type : Option ValueType} (load : method.loadType? fields index = type) :
      method.siteCount fields [index] = if type.isSome then 1 else 0 := by
    rw [siteCount, List.countP_singleton, load]
  simp only [planSites]
  cases kind : method.siteType? fields index instruction.opcode with
  | error failure => exact Or.inl ⟨.classify failure, .unclassified here kind, by simp [InstrumentError.taken]⟩
  | ok type =>
    have load := loadType?_eq here kind
    rw [count load]
    cases type with
    | none => exact Or.inr ⟨clear_of_siteType? here kind fun observed => absurd observed Bool.false_ne_true,
        id, by simp [Except.map_id]⟩
    | some type =>
      cases located : locationAt method.code index with
      | none => exact Or.inl ⟨_, .unlocated load (locationAt_eq_none.1 located), by simp [InstrumentError.taken]⟩
      | some location =>
        dsimp only
        cases written : (⟨next, type, location, method.qualifiedName⟩ : Site).hookSequence with
        | error failure =>
          obtain ⟨value, beyond, rfl⟩ := Site.hookSequence_error written
          exact Or.inl ⟨_, .beyond load located beyond, rfl⟩
        | ok sequence =>
          have within := Location.beyond?_of_fits (Site.hookSequence_eq written).1
          exact Or.inr ⟨clear_of_siteType? here kind fun _ => ⟨location, located, within⟩, _, rfl⟩

/-- Where planning succeeds, nothing is wrong. -/
theorem clear_of_planSites {planned : List PlannedSite}
    (placed : ∀ entry ∈ entries, method.code[entry.2]? = some entry.1)
    (found : method.planSites fields entries next = (.ok planned, last)) :
    ∀ entry ∈ entries, method.Clear fields entry.2 := by
  induction entries generalizing next planned with
  | nil => exact fun entry member => by cases member
  | cons entry rest ih =>
    obtain ⟨here, placed⟩ := List.forall_mem_cons.1 placed
    rcases planSites_cons here with ⟨failure, -, stopped⟩ | ⟨clear, add, onward⟩
    · cases found.symm.trans stopped
    · rw [onward] at found
      generalize later : method.planSites fields rest _ = result at found
      obtain ⟨planned' | planned', last'⟩ := result
      · cases found
      · cases found
        exact List.forall_mem_cons.2 ⟨clear, ih placed later⟩

/-- Where planning fails, it does so at the first instruction at fault, with the sites before it numbered. -/
theorem planSites_error (placed : ∀ entry ∈ entries, method.code[entry.2]? = some entry.1)
    (failed : method.planSites fields entries next = (.error failure, last)) :
    ∃ front entry back, entries = front ++ entry :: back ∧ (∀ earlier ∈ front, method.Clear fields earlier.2) ∧
      method.Faulty fields (next + .ofNat (method.siteCount fields (front.map (·.2)))) entry.2 failure ∧
      last = next + .ofNat (method.siteCount fields (front.map (·.2)) + failure.taken) := by
  induction entries generalizing next with
  | nil => cases failed
  | cons entry rest ih =>
    obtain ⟨here, placed⟩ := List.forall_mem_cons.1 placed
    rcases planSites_cons here with ⟨_, faulty, stopped⟩ | ⟨clear, add, onward⟩
    · cases failed.symm.trans stopped
      exact ⟨[], entry, rest, rfl, List.forall_mem_nil _, by simpa [siteCount] using faulty, by simp [siteCount]⟩
    · rw [onward] at failed
      generalize later : method.planSites fields rest _ = result at failed
      obtain ⟨failure' | planned, last'⟩ := result
      · cases failed
        obtain ⟨front, culprit, back, rfl, clearer, faulty, lastEq⟩ := ih placed later
        have counted : method.siteCount fields ((entry :: front).map (·.2)) =
            method.siteCount fields [entry.2] + method.siteCount fields (front.map (·.2)) := by
          rw [List.map_cons, ← List.singleton_append, siteCount, List.countP_append]
          rfl
        refine ⟨entry :: front, culprit, back, rfl, List.forall_mem_cons.2 ⟨clear, clearer⟩, ?_, ?_⟩
        · rwa [counted, UInt32.ofNat_add, ← UInt32.add_assoc]
        · rw [lastEq, counted, Nat.add_assoc, UInt32.ofNat_add, UInt32.ofNat_add, UInt32.ofNat_add, UInt32.add_assoc]
      · cases failed

/-- The instruction at which instrumenting a method fails. -/
theorem planSites_stops (failed : method.planSites fields method.code.toList.zipIdx next = (.error failure, last)) :
    ∃ index, (∀ earlier < index, method.Clear fields earlier) ∧
      method.Faulty fields (next + .ofNat (method.siteCount fields (List.range index))) index failure ∧
      last = next + .ofNat (method.siteCount fields (List.range index) + failure.taken) := by
  obtain ⟨front, entry, back, split, clear, faulty, lastEq⟩ := planSites_error placed_zipIdx failed
  have indices : List.range' 0 method.code.toList.length = front.map (·.2) ++ (entry :: back).map (·.2) := by
    rw [← List.map_append, ← split, List.zipIdx_map_snd]
  obtain ⟨index, -, ahead, onward⟩ := List.range'_eq_append_iff.1 indices
  obtain ⟨here, -, -⟩ := List.range'_eq_cons_iff.1 onward.symm
  rw [Nat.zero_add, Nat.mul_one] at here
  rw [← List.range_eq_range', here] at ahead
  rw [ahead] at faulty lastEq
  refine ⟨entry.2, fun earlier before => ?_, faulty, lastEq⟩
  have among : earlier ∈ front.map (·.2) := ahead ▸ List.mem_range.2 before
  obtain ⟨other, member, rfl⟩ := List.mem_map.1 among
  exact clear other member

end Method

/-- How many sites come, in the order of the text, before an instruction of a method that follows these. -/
def sitesBefore (fields : FieldTypes) (before : List Method) (method : Method) (index : Nat) : Nat :=
  (observedIn fields before).length + method.siteCount fields (List.range index)

/-- The first instruction, in the order of the text, at which something is wrong. -/
structure FirstFault (fields : FieldTypes) (methods : List Method) (first : UInt32)
    (failure : InstrumentError) (before : List Method) (method : Method) (after : List Method)
    (index : Nat) : Prop where
  split : methods = before ++ method :: after
  settled : ∀ earlier ∈ before, ∀ index, earlier.Clear fields index
  clear : ∀ earlier < index, method.Clear fields earlier
  faulty : method.Faulty fields (first + .ofNat (sitesBefore fields before method index)) index failure

section Methods

variable {fields : FieldTypes} {next last : UInt32} {method : Method} {methods before rest : List Method}
  {failure : InstrumentError} {records : List Site}

/-- A method whose sites were planned has no load that cannot be instrumented. -/
theorem Method.clear_of_planned {planned : List PlannedSite}
    (found : method.planSites fields method.code.toList.zipIdx next = (.ok planned, last)) (index : Nat) :
    method.Clear fields index := by
  by_cases inside : index < method.code.size
  · have listed : (method.code[index], index) ∈ method.code.toList.zipIdx := by
      rw [List.mem_zipIdx_iff_getElem?, Array.getElem?_toList, Array.getElem?_eq_getElem inside]
    exact clear_of_planSites placed_zipIdx found _ listed
  · have past : method.code[index]? = none := Array.getElem?_eq_none (Nat.not_lt.1 inside)
    have load : method.loadType? fields index = none := by simp only [loadType?, past]
    intro number failure faulty
    cases faulty with
    | unclassified here => cases past.symm.trans here
    | unlocated load' => cases load.symm.trans load'
    | beyond load' => cases load.symm.trans load'

/-- Methods that can be instrumented are instrumented in the same way whatever comes after them. -/
theorem instrumentMethods_append (succeeded : (instrumentMethods fields before next).sites = .ok records) :
    instrumentMethods fields (before ++ rest) next =
      let later := instrumentMethods fields rest (instrumentMethods fields before next).next
      ⟨(instrumentMethods fields before next).methods ++ later.methods, later.next,
        later.sites.map (records ++ ·)⟩ := by
  induction before generalizing next records with
  | nil =>
    cases succeeded
    exact congrArg (Instrumentation.mk _ _) (congrFun Except.map_id _).symm
  | cons method before ih =>
    obtain ⟨planned, last, listed, search, later, rfl, -, -⟩ := instrumentMethods_ok succeeded
    simp only [List.cons_append, instrumentMethods, search, ih later, Instrumentation.mk.injEq, true_and]
    cases (instrumentMethods fields rest (instrumentMethods fields before last).next).sites with
    | error failure => rfl
    | ok records => exact congrArg Except.ok (List.append_assoc ..).symm

/-- Instrumenting stops at the first instruction at which something is wrong; what comes before it is done and
what comes after it is left. -/
theorem instrumentMethods_error (failed : (instrumentMethods fields methods next).sites = .error failure) :
    ∃ before method after index, FirstFault fields methods next failure before method after index ∧
      (∃ records, (instrumentMethods fields before next).sites = .ok records) ∧
      (instrumentMethods fields methods next).methods = (instrumentMethods fields before next).methods ++
        method :: after ∧
      (instrumentMethods fields methods next).next =
        next + .ofNat (sitesBefore fields before method index + failure.taken) := by
  induction methods generalizing next with
  | nil => cases failed
  | cons method rest ih =>
    simp only [instrumentMethods] at failed ⊢
    rcases search : method.planSites fields method.code.toList.zipIdx next with ⟨failure' | planned, last⟩
    · rw [search] at failed
      cases failed
      obtain ⟨index, clear, faulty, lastEq⟩ := Method.planSites_stops search
      have ahead : sitesBefore fields [] method index = method.siteCount fields (List.range index) := Nat.zero_add _
      exact ⟨[], method, rest, index, ⟨rfl, List.forall_mem_nil _, clear, ahead ▸ faulty⟩, ⟨[], rfl⟩,
        rfl, ahead ▸ lastEq⟩
    · simp only [search] at failed ⊢
      cases later : (instrumentMethods fields rest last).sites with
      | ok records =>
        rw [later] at failed
        cases failed
      | error failure' =>
        rw [later] at failed
        cases failed
        obtain ⟨before, culprit, after, index, stops, ⟨records, succeeded⟩, methods, finish⟩ := ih later
        have between : last = next + .ofNat (method.loads fields).length := by
          rw [(Method.planSites_sound Method.placed_zipIdx search).2.2, ← Method.planned_indices search,
            List.length_map]
        have ahead : sitesBefore fields (method :: before) culprit index =
            (method.loads fields).length + sitesBefore fields before culprit index := by
          rw [sitesBefore, sitesBefore, observedIn, List.flatMap_cons, List.length_append, List.length_map,
            Nat.add_assoc]
          rfl
        refine ⟨method :: before, culprit, after, index, ⟨congrArg (method :: ·) stops.split, ?_, stops.clear, ?_⟩,
          ⟨planned.map (·.site) ++ records, by simp only [instrumentMethods, search, succeeded, Except.map]⟩, ?_, ?_⟩
        · exact List.forall_mem_cons.2 ⟨Method.clear_of_planned search, stops.settled⟩
        · rw [ahead, UInt32.ofNat_add, ← UInt32.add_assoc, ← between]
          exact stops.faulty
        · simp only [instrumentMethods, search, methods, List.cons_append]
        · rw [finish, between, ahead, Nat.add_assoc, UInt32.ofNat_add _ (_ + _), UInt32.add_assoc]

/-- Instrumenting succeeds if nothing is wrong. -/
theorem instrumentMethods_succeeds (clear : ∀ method ∈ methods, ∀ index, method.Clear fields index) :
    ∃ records, (instrumentMethods fields methods next).sites = .ok records := by
  cases answer : (instrumentMethods fields methods next).sites with
  | ok records => exact ⟨records, rfl⟩
  | error failure =>
    obtain ⟨before, method, after, index, stops, -⟩ := instrumentMethods_error answer
    have member : method ∈ methods := stops.split ▸ List.mem_append_right before (List.mem_cons_self ..)
    exact absurd stops.faulty (clear method member index _ _)

end Methods

namespace Module

variable {fields : FieldTypes} {first last : UInt32} {module done : Module} {failure : InstrumentError}

/-- What instrumenting comes to when it fails. The error is about the first instruction at which something is
wrong. The methods before its method are as they are whenever instrumenting succeeds, and everything else is
as it was. The numbers of the sites before the instruction are used up, and so is its own if it has got one.
-/
structure CutShort (module : Module) (fields : FieldTypes) (first : UInt32) (done : Module) (last : UInt32)
    (failure : InstrumentError) (before hooked : List Method) (method : Method) (after : List Method)
    (index : Nat) : Prop
    extends FirstFault fields module.methods first failure before method after index where
  done : done = { module with methods := hooked ++ method :: after }
  length : hooked.length = before.length
  succeeds : ∃ next records,
    { module with methods := before }.instrument fields first = ({ module with methods := hooked }, next, .ok records)
  agrees : ∀ rest other next records,
    { module with methods := before ++ rest }.instrument fields first = (other, next, .ok records) →
    hooked <+: other.methods
  last : last = first + .ofNat (sitesBefore fields before method index + failure.taken)

/-- Instrumenting fails at the first instruction at which something is wrong. -/
theorem instrument_cutShort (failed : module.instrument fields first = (done, last, .error failure)) :
    ∃ before hooked method after index,
    module.CutShort fields first done last failure before hooked method after index := by
  have stopped : (instrumentMethods fields module.methods first).sites = .error failure := congrArg (·.2.2) failed
  obtain rfl : (instrumentMethods fields module.methods first).next = last := congrArg (·.2.1) failed
  obtain rfl : { module with methods := (instrumentMethods fields module.methods first).methods } = done :=
    congrArg (·.1) failed
  obtain ⟨before, method, after, index, stops, ⟨records, succeeded⟩, methods, finish⟩ :=
    instrumentMethods_error stopped
  refine ⟨before, (instrumentMethods fields before first).methods, method, after, index, {
    toFirstFault := stops
    done := by rw [methods]
    length := by rw [instrumentMethods_woven succeeded, List.length_mapIdx]
    succeeds := ⟨_, records, by rw [instrument, succeeded]⟩
    agrees := fun rest other next found run => ?_
    last := finish }⟩
  have whole : (instrumentMethods fields (before ++ rest) first).methods =
      (instrumentMethods fields before first).methods ++
        (instrumentMethods fields rest (instrumentMethods fields before first).next).methods :=
    congrArg (·.methods) (instrumentMethods_append succeeded)
  obtain rfl : { module with methods := (instrumentMethods fields (before ++ rest) first).methods } = other :=
    congrArg (·.1) run
  exact ⟨_, whole.symm⟩

/-- A module with a method that can be instrumented, one of which the second site stands in a column that is
no literal, and a third. -/
def unwritableModule : Module :=
  let method (name : String) (body : Array Instruction) : Method :=
    { owner := "C", name, isStatic := true, params := [], locals := [.int32], returns := none,
      attributes := [], body := some body }
  let site (column : UInt32) : Instruction := ⟨.loadLocal 0, some ⟨"c.src", 3, 3, 5, column⟩⟩
  { name := "C", optimized := false, debugInfo := .full, metadata := .empty, classes := [], sites := []
    methods := [method "f" #[site 9, ⟨.pop, none⟩, ⟨.return, none⟩],
      method "g" #[site 9, ⟨.pop, none⟩, site 0x80000000, ⟨.pop, none⟩, ⟨.return, none⟩],
      method "h" #[site 9, ⟨.pop, none⟩, ⟨.return, none⟩]] }

theorem instrument_cutShort_unwritable : ∃ done,
    unwritableModule.instrument (fun _ => none) 7 = (done, 10, .error (.locationOutOfRange 9 0x80000000)) ∧
      ∃ before hooked method after index, unwritableModule.CutShort (fun _ => none) 7 done 10
        (.locationOutOfRange 9 0x80000000)
        before hooked method after index :=
  ⟨_, rfl, instrument_cutShort rfl⟩

end Module

end Faultline
