import Faultline.Proofs.Code.RoundTrip
import Faultline.Proofs.Site.Records

namespace Faultline

/-- Instructions, each given with its index, with their targets moved and with what comes behind them. -/
def weave (move : Nat → Nat) (behind : Nat → List Instruction)
    (entries : List (Instruction × Nat)) : List Instruction :=
  entries.flatMap fun entry => entry.1.mapTarget move :: behind entry.2

section Weave

variable {move move' shift : Nat → Nat} {behind behind' : Nat → List Instruction}
  {entries front back : List (Instruction × Nat)}

theorem weave_append : weave move behind (front ++ back) = weave move behind front ++ weave move behind back :=
  List.flatMap_append

theorem weave_cons {entry : Instruction × Nat} :
    weave move behind (entry :: back) = entry.1.mapTarget move :: behind entry.2 ++ weave move behind back := rfl

theorem length_weave (alone : ∀ entry ∈ entries, behind entry.2 = []) :
    (weave move behind entries).length = entries.length := by
  induction entries with
  | nil => rfl
  | cons entry rest ih =>
    obtain ⟨here, later⟩ := List.forall_mem_cons.1 alone
    rw [weave_cons, here, List.length_append, ih later, List.length_singleton, List.length_cons, Nat.add_comm]

/-- Moving all targets moves those of the instructions given, since what comes behind them has none. -/
theorem map_weave (moved : ∀ target, move' target = shift (move target))
    (same : ∀ entry ∈ entries, behind' entry.2 = behind entry.2)
    (straight : ∀ index, ∀ instruction ∈ behind index, instruction.opcode.target? = none) :
    (weave move behind entries).map (·.mapTarget shift) = weave move' behind' entries := by
  induction entries with
  | nil => rfl
  | cons entry rest ih =>
    obtain ⟨here, same⟩ := List.forall_mem_cons.1 same
    have still : (behind entry.2).map (·.mapTarget shift) = behind entry.2 := by
      refine (List.map_congr_left fun instruction member => ?_).trans (List.map_id' _)
      simp only [Instruction.mapTarget, Opcode.mapTarget_of_target?_none _ (straight _ instruction member)]
    have own : (entry.1.mapTarget move).mapTarget shift = entry.1.mapTarget move' := by
      simp only [Instruction.mapTarget, Opcode.mapTarget_mapTarget, ← moved]
    rw [weave_cons, weave_cons, List.map_append, List.map_cons, own, still, here, ih same]

end Weave

/-- Every instruction stands between those with smaller and those with greater indices. -/
theorem exists_split_zipIdx {code : List Instruction} {index : Nat} (inside : index < code.length) :
    ∃ front instruction back, code.zipIdx = front ++ (instruction, index) :: back ∧ front.length = index ∧
      (∀ entry ∈ front, entry.2 < index) ∧ ∀ entry ∈ back, index < entry.2 := by
  have length : (code.take index).length = index := List.length_take_of_le (Nat.le_of_lt inside)
  have whole : code = code.take index ++ code[index] :: code.drop (index + 1) := by
    rw [List.getElem_cons_drop, List.take_append_drop]
  refine ⟨(code.take index).zipIdx, code[index], (code.drop (index + 1)).zipIdx (index + 1), ?_, ?_, ?_, ?_⟩
  · refine (congrArg List.zipIdx whole).trans ?_
    rw [List.zipIdx_append, length, List.zipIdx_cons, Nat.zero_add]
  · rw [List.length_zipIdx, length]
  · intro entry member
    have := List.snd_lt_of_mem_zipIdx member
    omega
  · intro entry member
    exact List.le_snd_of_mem_zipIdx member

/-- Inserting a sequence behind an instruction that nothing comes behind yet, nor behind any before it. -/
theorem insertAfter_weave {move move' : Nat → Nat} {behind behind' : Nat → List Instruction}
    {code woven inserted : Array Instruction} {index : Nat} (inside : index < code.size)
    (weaves : woven.toList = weave move behind code.toList.zipIdx)
    (alone : ∀ earlier ≤ index, behind earlier = [])
    (straight : ∀ index, ∀ instruction ∈ behind index, instruction.opcode.target? = none)
    (moved : ∀ target, move' target = shiftTarget index inserted.size (move target))
    (here : behind' index = inserted.toList) (same : ∀ other, index ≠ other → behind' other = behind other) :
    (insertAfter woven index inserted).toList = weave move' behind' code.toList.zipIdx := by
  rw [← Array.length_toList] at inside
  obtain ⟨front, instruction, back, split, count, before, after⟩ := exists_split_zipIdx inside
  have early := map_weave moved (fun entry member => same _ (Nat.ne_of_gt (before entry member))) straight
  have late := map_weave moved (fun entry member => same _ (Nat.ne_of_lt (after entry member))) straight
  have own : (instruction.mapTarget move).mapTarget (shiftTarget index inserted.size) =
      instruction.mapTarget move' := by
    simp only [Instruction.mapTarget, Opcode.mapTarget_mapTarget, ← moved]
  have length : (weave move' behind' front ++ [instruction.mapTarget move']).length = index + 1 := by
    rw [← early, List.length_append, List.length_map, length_weave fun entry member =>
      alone _ (Nat.le_of_lt (before entry member)), count, List.length_singleton]
  have shifted : woven.toList.map (·.mapTarget (shiftTarget index inserted.size)) =
      (weave move' behind' front ++ [instruction.mapTarget move']) ++ weave move' behind' back := by
    rw [weaves, split, weave_append, weave_cons, alone index (Nat.le_refl _), List.map_append, early,
      List.map_append, late, List.map_singleton, own, List.append_assoc]
  rw [toList_insertAfter, shifted, List.take_left' length, List.drop_left' length, split, weave_append,
    weave_cons, here]
  simp only [List.append_assoc, List.cons_append, List.nil_append]

/-- The instructions planned behind each one. -/
def plannedSequence (planned : List PlannedSite) (index : Nat) : List Instruction :=
  ((planned.find? (·.index = index)).map (·.sequence.toList)).getD []

section Planned

variable {plan : PlannedSite} {planned rest : List PlannedSite} {index : Nat}

theorem length_plannedSequence : (plannedSequence planned index).length = plannedLength planned index := by
  unfold plannedSequence plannedLength
  cases planned.find? (·.index = index) <;> rfl

theorem plannedSequence_cons_self : plannedSequence (plan :: rest) plan.index = plan.sequence.toList := by
  simp [plannedSequence]

theorem plannedSequence_cons_of_ne (other : plan.index ≠ index) :
    plannedSequence (plan :: rest) index = plannedSequence rest index := by
  simp [plannedSequence, other]

theorem plannedSequence_of_lt (behind : ∀ later ∈ rest, index < later.index) : plannedSequence rest index = [] := by
  rw [← List.length_eq_zero_iff, length_plannedSequence, plannedLength_of_lt behind]

end Planned

namespace Insertable

variable {code : Array Instruction} {planned : List PlannedSite}

theorem straight_sequence (insertable : Insertable code planned) (index : Nat) :
    ∀ instruction ∈ plannedSequence planned index, instruction.opcode.target? = none := by
  unfold plannedSequence
  cases search : planned.find? (·.index = index) with
  | none => exact fun instruction member => by cases member
  | some plan =>
    intro instruction member
    exact insertable.straight plan (List.mem_of_find?_eq_some search) instruction (Array.mem_toList_iff.1 member)

/-- Inserting the sequences from the last to the first comes to weaving all of them in at once. -/
theorem toList_insertAll (insertable : Insertable code planned) :
    (insertAll code planned).toList = weave (relocate (plannedLength planned))
    (plannedSequence planned) code.toList.zipIdx := by
  induction planned with
  | nil =>
    have still : relocate (plannedLength []) = fun place => place := by
      funext place
      exact relocate_eq_self fun _ _ => rfl
    have own (entry : Instruction × Nat) :
        entry.1.mapTarget (relocate (plannedLength [])) :: plannedSequence [] entry.2 = [entry.1] := by
      rw [still, Instruction.mapTarget, Opcode.mapTarget_id]
      rfl
    simp only [weave, own]
    exact ((List.flatMap_pure_eq_map Prod.fst _).trans (List.zipIdx_map_fst ..)).symm
  | cons plan rest ih =>
    refine insertAfter_weave (insertable.inside plan (List.mem_cons_self ..)) (ih insertable.tail)
      (fun earlier upTo => ?_)
      insertable.tail.straight_sequence (relocate_plannedLength_cons insertable.behind) plannedSequence_cons_self
      fun other => plannedSequence_cons_of_ne
    exact plannedSequence_of_lt fun later among => Nat.lt_of_le_of_lt upTo (insertable.behind later among)

end Insertable

/-- Where an index moves to when these instructions come behind those before it. -/
def movedBy (behind : Nat → List Instruction) (index : Nat) : Nat :=
  index + ((List.range index).flatMap behind).length

theorem relocate_eq_movedBy {length : Nat → Nat} {behind : Nat → List Instruction}
    (same : ∀ index, (behind index).length = length index) :
    relocate length = movedBy behind := by
  funext index
  induction index with
  | zero => rfl
  | succ index ih =>
    rw [relocate_succ, ih, movedBy, movedBy, List.range_succ, List.flatMap_append, List.length_append,
      List.flatMap_singleton, same]
    omega

section Moved

variable {move : Nat → Nat} {behind : Nat → List Instruction} {size target : Nat}

theorem mem_weave {instruction : Instruction} {entries : List (Instruction × Nat)} :
    instruction ∈ weave move behind entries ↔ ∃ entry ∈ entries, instruction = entry.1.mapTarget move ∨
    instruction ∈ behind entry.2 := by
  simp only [weave, List.mem_flatMap, List.mem_cons]

/-- Woven code is as long as its end has moved. -/
theorem length_weave_zipIdx (code : List Instruction) :
    (weave move behind code.zipIdx).length = movedBy behind code.length := by
  have length (entries : List (Instruction × Nat)) :
      (weave move behind entries).length = entries.length + ((entries.map (·.2)).flatMap behind).length := by
    induction entries with
    | nil => rfl
    | cons entry rest ih =>
      rw [weave_cons, List.length_append, ih, List.map_cons, List.flatMap_cons, List.length_append,
        List.length_cons, List.length_cons]
      omega
  rw [length, List.length_zipIdx, List.zipIdx_map_snd, ← List.range_eq_range', movedBy]

theorem movedBy_eq_relocate : movedBy behind = relocate fun index => (behind index).length :=
  (relocate_eq_movedBy fun _ => rfl).symm

theorem movedBy_le (within : target ≤ size) : movedBy behind target ≤ movedBy behind size := by
  rcases Nat.lt_or_eq_of_le within with before | rfl
  · have := @relocate_lt (fun index => (behind index).length) _ _ before
    rw [movedBy_eq_relocate]
    omega
  · exact Nat.le_refl _

/-- Behind the end, all indices move by the same number. -/
theorem movedBy_beyond (alone : ∀ index, size ≤ index → behind index = []) (beyond : size ≤ target) :
    movedBy behind target = movedBy behind size + (target - size) := by
  induction target, beyond using Nat.le_induction with
  | base => rw [Nat.sub_self, Nat.add_zero]
  | succ target beyond ih =>
    rw [movedBy_eq_relocate, relocate_succ, ← movedBy_eq_relocate, ih, alone target beyond, List.length_nil]
    omega

end Moved

/-- The instructions behind a site. -/
def Site.hookInstructions (site : Site) : List Instruction :=
  site.hookCode.map fun opcode => .hidden opcode site.location.document

/-- The instructions behind each one when these are the sites. -/
def behindSites (sites : Nat → Option Site) (index : Nat) : List Instruction :=
  (sites index).elim [] Site.hookInstructions

/-- The method with the instructions of the sites in it, each jump to where its target moves to. -/
def Method.woven (sites : Nat → Option Site) (method : Method) : Method :=
  method.mapCode fun code => (weave (movedBy (behindSites sites)) (behindSites sites) code.toList.zipIdx).toArray

theorem Method.size_woven {method : Method} {sites : Nat → Option Site} :
    (method.woven sites).code.size = movedBy (behindSites sites) method.code.size := by
  unfold Method.woven Method.mapCode Method.code
  cases method.body with
  | none => rfl
  | some body =>
    rw [Option.map_some, Option.getD_some, Option.getD_some, List.size_toArray, length_weave_zipIdx,
      Array.length_toList]

namespace Site

theorem toInt_toInt32 {value : UInt32} (fits : value ≤ 0x7FFFFFFF) : value.toInt32.toInt = value.toNat := by
  have small : 2 * value.toNat < 2 ^ 32 := by
    have := UInt32.le_iff_toNat_le.1 fits
    change value.toNat ≤ 0x7FFFFFFF at this
    omega
  exact BitVec.toInt_eq_toNat_of_lt small

theorem toInt_toInt64 (value : UInt32) : value.toUInt64.toInt64.toInt = value.toNat := by
  have small : 2 * value.toUInt64.toNat < 2 ^ 64 := by
    have := value.toNat_lt
    rw [UInt32.toNat_toUInt64]
    omega
  exact (BitVec.toInt_eq_toNat_of_lt small).trans (congrArg _ value.toNat_toUInt64)

/-- The instructions make the hook call with just the record's document, coordinates, number and type, and all
of them are hidden. -/
structure Spelled (site : Site) (instructions : List Instruction) : Prop where
  written : site.hookSequence = .ok instructions.toArray
  hidden : ∀ instruction ∈ instructions, instruction.isHidden
  literals : ∃ (startLine endLine startColumn endColumn : Int32) (number : Int64),
    startLine.toInt = site.location.startLine.toNat ∧ endLine.toInt = site.location.endLine.toNat ∧
    startColumn.toInt = site.location.startColumn.toNat ∧ endColumn.toInt = site.location.endColumn.toNat ∧
    number.toInt = site.id.toNat ∧
    instructions.map (·.opcode) = (if site.type.isPrimitive then [.box site.type] else []) ++
      [.loadString site.location.document, .loadInt32 startLine, .loadInt32 endLine, .loadInt32 startColumn,
        .loadInt32 endColumn,
        .loadInt64 number, .callHook site.type] ++ (if site.type.isPrimitive then [.unbox site.type] else [])

theorem hookSequence_of_fits {site : Site} (fits : site.Fits) :
    site.hookSequence = .ok site.hookInstructions.toArray := by
  have literal {value : UInt32} (small : value ≤ 0x7FFFFFFF) : site.literal value = .ok value.toInt32 := if_pos small
  unfold hookSequence hookOpcodes
  rw [literal fits.startLine, literal fits.endLine, literal fits.startColumn, literal fits.endColumn]
  rfl

theorem spelled_hookInstructions {site : Site} (fits : site.Fits) : site.Spelled site.hookInstructions := by
  refine ⟨hookSequence_of_fits fits, fun instruction member => ?_, _, _, _, _, _, toInt_toInt32 fits.startLine,
    toInt_toInt32 fits.endLine, toInt_toInt32 fits.startColumn, toInt_toInt32 fits.endColumn,
    toInt_toInt64 site.id, ?_⟩
  · obtain ⟨opcode, _, rfl⟩ := List.mem_map.1 member
    exact Instruction.isHidden_hidden ..
  · rw [hookInstructions, List.map_map, hookCode]
    split <;> rfl

end Site

section SinglePass

variable {fields : FieldTypes} {next last : UInt32} {method : Method} {methods : List Method}
  {planned : List PlannedSite} {records : List Site}

/-- What was planned for an instruction. -/
theorem Method.plannedSequence_eq
    (found : method.planSites fields method.code.toList.zipIdx next = (.ok planned, last)) :
    plannedSequence planned = behindSites fun index => (planned.find? (·.index = index)).map (·.site) := by
  funext index
  rw [plannedSequence, behindSites]
  cases search : planned.find? (·.index = index) with
  | none => rfl
  | some plan =>
    obtain ⟨position, listed⟩ := List.mem_iff_getElem?.1 (List.mem_of_find?_eq_some search)
    have sound := (planSites_sound placed_zipIdx found).2.1 position plan listed
    rw [Option.map_some, Option.map_some, Option.getD_some, Option.elim_some, sound.sequence]
    rfl

/-- The insertions one after the other give the code woven in one pass. -/
theorem Method.insertSequences_woven
    (found : method.planSites fields method.code.toList.zipIdx next = (.ok planned, last)) :
    method.insertSequences planned = method.woven fun index => (planned.find? (·.index = index)).map (·.site) := by
  rw [insertSequences_eq, woven, ← plannedSequence_eq found, ← relocate_eq_movedBy fun _ =>
    length_plannedSequence, mapCode, mapCode]
  cases present : method.body with
  | none => rfl
  | some body =>
    have insertable := insertable_of_planSites found
    rw [code, present, Option.getD_some] at insertable
    rw [Option.map_some, Option.map_some, ← insertable.toList_insertAll]

/-- The record of a load among those of the methods' loads, which are listed in the order of the text. -/
def recordAt? (fields : FieldTypes) (methods : List Method) (records : List Site) (position : Nat)
    (method : Method) (index : Nat) :
    Option Site :=
  ((method.loads fields).idxOf? index).bind fun place =>
    records[(observedIn fields (methods.take position)).length + place]?

/-- The records of the first method are those planned for it. -/
theorem recordAt?_head (found : method.planSites fields method.code.toList.zipIdx next = (.ok planned, last)) :
    recordAt? fields (method :: methods) (planned.map (·.site) ++ records) 0 method =
      fun index => (planned.find? (·.index = index)).map (·.site) := by
  have indices := Method.planned_indices found
  funext index
  have start : (observedIn fields ((method :: methods).take 0)).length = 0 := rfl
  rw [recordAt?, start]
  cases search : planned.find? (·.index = index) with
  | none =>
    have absent : index ∉ method.loads fields := by
      rw [← indices, List.mem_map]
      rintro ⟨plan, member, rfl⟩
      simpa using List.find?_eq_none.1 search plan member
    rw [List.idxOf?_eq_none_iff.2 absent]
    rfl
  | some plan =>
    obtain ⟨position, listed⟩ := List.mem_iff_getElem?.1 (List.mem_of_find?_eq_some search)
    have here : plan.index = index := by simpa using List.find?_some search
    have atPosition : (method.loads fields)[position]? = some index := by
      rw [← indices, List.getElem?_map, listed, Option.map_some, here]
    have recorded : (planned.map (·.site))[position]? = some plan.site := by
      rw [List.getElem?_map, listed, Option.map_some]
    rw [idxOf?_eq_some_of_nodup Method.loads_nodup atPosition, Option.bind_some, Nat.zero_add,
      List.getElem?_append_left (List.getElem?_eq_some_iff.1 recorded).1, recorded, Option.map_some]

theorem behindSites_recordAt? {fields : FieldTypes} {methods : List Method} {records : List Site}
    {position : Nat} {method : Method} {index : Nat} (beyond : method.code.size ≤ index) :
    behindSites (recordAt? fields methods records position method) index = [] := by
  have absent : index ∉ method.loads fields := by
    rw [Method.loads, List.mem_filter, List.mem_range]
    omega
  rw [behindSites, recordAt?, List.idxOf?_eq_none_iff.2 absent]
  rfl

/-- The records of the later methods stand behind those of the first. -/
theorem recordAt?_tail {front : List Site} (length : front.length = (method.loads fields).length)
    (position : Nat) (later : Method) :
    recordAt? fields (method :: methods) (front ++ records)
      (position + 1) later = recordAt? fields methods records position later := by
  funext index
  unfold recordAt?
  congr 1
  funext place
  have ahead : (observedIn fields ((method :: methods).take (position + 1))).length =
      front.length + (observedIn fields (methods.take position)).length := by
    rw [List.take_succ_cons, observedIn, List.flatMap_cons, List.length_append, List.length_map, length]
    rfl
  rw [ahead, List.getElem?_append_right (by omega)]
  congr 1
  omega

/-- Every method is woven with its own records. -/
theorem instrumentMethods_woven (found : (instrumentMethods fields methods next).sites = .ok records) :
    (instrumentMethods fields methods next).methods =
      methods.mapIdx fun position method => method.woven (recordAt? fields methods records position method) := by
  induction methods generalizing next records with
  | nil => rfl
  | cons method rest ih =>
    obtain ⟨planned, last, listed, search, later, rfl, done, -⟩ := instrumentMethods_ok found
    have length : (planned.map (·.site)).length = (method.loads fields).length := by
      rw [← Method.planned_indices search, List.length_map, List.length_map]
    rw [done, ih later, List.mapIdx_cons, recordAt?_head search, Method.insertSequences_woven search]
    simp only [recordAt?_tail length]

/-- Whatever stood at an index stands where the index moves to, its target moved as well, with the location in
force that it had. -/
def Method.Carried (sites : Nat → Option Site) (method hooked : Method) : Prop :=
  ∀ index, hooked.code[movedBy (behindSites sites) index]? = method.code[index]?.map
    (·.mapTarget (movedBy (behindSites sites))) ∧
    locationAt hooked.code (movedBy (behindSites sites) index) = locationAt method.code index

theorem Method.carried_insertSequences
    (found : method.planSites fields method.code.toList.zipIdx next = (.ok planned, last)) :
    Method.Carried (fun index => (planned.find? (·.index = index)).map (·.site)) method
      (method.insertSequences planned) := by
  intro index
  have insertable := insertable_of_planSites found
  rw [← plannedSequence_eq found, ← relocate_eq_movedBy fun _ => length_plannedSequence, code_insertSequences found]
  exact ⟨insertable.getElem?_relocated index, insertable.locationAt_relocated index⟩

/-- Every instruction of a method is carried to its new place. -/
theorem instrumentMethods_carried (found : (instrumentMethods fields methods next).sites = .ok records)
    {position : Nat} (placed : methods[position]? = some method) :
    ∃ hooked, (instrumentMethods fields methods next).methods[position]? = some hooked ∧
      Method.Carried (recordAt? fields methods records position method) method hooked := by
  induction methods generalizing next records position with
  | nil => cases placed
  | cons first rest ih =>
    obtain ⟨planned, last, listed, search, later, rfl, done, -⟩ := instrumentMethods_ok found
    have length : (planned.map (·.site)).length = (first.loads fields).length := by
      rw [← Method.planned_indices search, List.length_map, List.length_map]
    rw [done]
    cases position with
    | zero =>
      cases placed
      exact ⟨_, rfl, recordAt?_head search ▸ Method.carried_insertSequences search⟩
    | succ position =>
      rw [recordAt?_tail length]
      exact ih later placed

/-- Every record is spelled by the instructions inserted for it. -/
theorem instrumentMethods_spelled (found : (instrumentMethods fields methods next).sites = .ok records) :
    ∀ record ∈ records, record.Spelled record.hookInstructions := by
  induction methods generalizing next records with
  | nil =>
    cases found
    exact fun record member => by cases member
  | cons method rest ih =>
    obtain ⟨planned, last, listed, search, later, rfl, -, -⟩ := instrumentMethods_ok found
    intro record member
    rcases List.mem_append.1 member with here | there
    · obtain ⟨plan, among, rfl⟩ := List.mem_map.1 here
      obtain ⟨position, placed⟩ := List.mem_iff_getElem?.1 among
      exact Site.spelled_hookInstructions
        ((Method.planSites_sound Method.placed_zipIdx search).2.1 position plan placed).fits
    · exact ih later record there

end SinglePass

namespace Module

variable {fields : FieldTypes} {first last : UInt32} {module done : Module} {records : List Site}

/-- What instrumenting comes to in a single pass over a module. The record of the `k`-th load, in the order of
the text, has the number `first + k`; behind the load comes the hook call that the record spells; a target
moves by as many instructions as come behind those before it; and nothing else changes. -/
structure SinglePass (module : Module) (fields : FieldTypes) (first : UInt32) (done : Module) (last : UInt32)
    (records : List Site) :
    Prop where
  recorded : List.Forall₂ (fun site load => site.Records fields load.1 load.2) records
    (observedIn fields module.methods)
  ids : records.map (·.id) = (List.range records.length).map fun k => first + .ofNat k
  last : last = first + .ofNat records.length
  spelled : ∀ record ∈ records, record.Spelled record.hookInstructions
  rest : { done with methods := [] } = { module with methods := [] }
  woven : done.methods = module.methods.mapIdx fun position method =>
    method.woven (recordAt? fields module.methods records position method)
  carried : ∀ position method, module.methods[position]? = some method → ∃ hooked,
    done.methods[position]? = some hooked ∧
    Method.Carried (recordAt? fields module.methods records position method) method hooked

/-- Instrumenting in place and in one pass give the same module. -/
theorem singlePass_of_sites (listed : (instrumentMethods fields module.methods first).sites = .ok records) :
    module.SinglePass fields first { module with methods := (instrumentMethods fields module.methods first).methods }
      (instrumentMethods fields module.methods first).next records := by
  obtain ⟨ids, onward⟩ := instrumentMethods_ids listed
  exact {
    recorded := instrumentMethods_records listed
    ids := ids
    last := onward
    spelled := instrumentMethods_spelled listed
    rest := rfl
    woven := instrumentMethods_woven listed
    carried := fun _ _ placed => instrumentMethods_carried listed placed }

/-- Instrumenting, which inserts one sequence after the other and moves the targets each time, is a single pass. -/
theorem instrument_singlePass (found : module.instrument fields first = (done, last, .ok records)) :
    module.SinglePass fields first done last records := by
  have listed : (instrumentMethods fields module.methods first).sites = .ok records := congrArg (·.2.2) found
  obtain rfl : (instrumentMethods fields module.methods first).next = last := congrArg (·.2.1) found
  obtain rfl : { module with methods := (instrumentMethods fields module.methods first).methods } = done :=
    congrArg (·.1) found
  exact singlePass_of_sites listed

theorem instrument_singlePass_kitchen : ∃ done last records,
    kitchenModule.instrument (fieldTypeIn? [kitchenModule]) 7 = (done, last, .ok records) ∧
      kitchenModule.SinglePass (fieldTypeIn? [kitchenModule]) 7 done last records :=
  ⟨_, _, _, rfl, instrument_singlePass rfl⟩

end Module

end Faultline
