import Faultline.Proofs.Site.Hooked

namespace Faultline

/-! The numbers in the code. -/

/-- What each hook call is made with as its number: what the instruction before it loads, if it loads a number
at all. -/
def hookNumbers (before : Option Int64) : List Opcode → List (Option Int64)
  | [] => []
  | .callHook _ :: rest => before :: hookNumbers none rest
  | .loadInt64 number :: rest => hookNumbers (some number) rest
  | _ :: rest => hookNumbers none rest

def Method.hookNumbers (method : Method) : List (Option Int64) :=
  Faultline.hookNumbers none (method.code.toList.map (·.opcode))

/-- The numbers that the hook calls of a module are made with, in the order of its text. -/
def Module.hookNumbers (module : Module) : List (Option Int64) := module.methods.flatMap Method.hookNumbers

/-- The number of a site as hook calls are made with it. -/
def Site.operand (site : Site) : Option Int64 := some site.id.toUInt64.toInt64

section Numbers

variable {before before' : Option Int64} {opcodes front back : List Opcode}

theorem hookNumbers_of_plain (plain : ∀ opcode ∈ opcodes, ∀ type, opcode ≠ .callHook type) :
    hookNumbers before opcodes = [] := by
  induction opcodes generalizing before with
  | nil => rfl
  | cons opcode rest ih =>
    obtain ⟨here, later⟩ := List.forall_mem_cons.1 plain
    cases opcode with
    | callHook type => exact absurd rfl (here type)
    | _ => exact ih later

/-- What comes before code that does not begin with a hook call does not matter to it. -/
theorem hookNumbers_of_head (head : ∀ type, opcodes.head? ≠ some (.callHook type)) :
    hookNumbers before opcodes = hookNumbers before' opcodes := by
  cases opcodes with
  | nil => rfl
  | cons opcode rest =>
    cases opcode with
    | callHook type => exact absurd rfl (head type)
    | _ => rfl

theorem hookNumbers_append (head : ∀ type, back.head? ≠ some (.callHook type)) :
    hookNumbers before (front ++ back) = hookNumbers before front ++ hookNumbers none back := by
  induction front generalizing before with
  | nil => exact hookNumbers_of_head head
  | cons opcode rest ih =>
    cases opcode with
    | callHook type => exact congrArg (before :: ·) ih
    | _ => exact ih

theorem hookNumbers_mapTarget (f : Nat → Nat) :
    hookNumbers before (opcodes.map (·.mapTarget f)) = hookNumbers before opcodes := by
  induction opcodes generalizing before with
  | nil => rfl
  | cons opcode rest ih =>
    cases opcode with
    | callHook type => exact congrArg (before :: ·) ih
    | _ => exact ih

theorem Site.hookNumbers_hookCode (site : Site) : Faultline.hookNumbers before site.hookCode = [site.operand] := by
  unfold hookCode
  split <;> rfl

end Numbers

section Inserted

variable {code : Array Instruction} {planned : List PlannedSite}

/-- Where code without hook calls gets some only further behind, there are none yet. -/
theorem plain_insertAll {bound : Nat} (plain : ∀ instruction ∈ code, ∀ type, instruction.opcode ≠ .callHook type)
    (inside : ∀ plan ∈ planned, plan.index < code.size) (behind : ∀ plan ∈ planned, bound ≤ plan.index) :
    ∀ instruction ∈ (insertAll code planned).toList.take (bound + 1), ∀ type,
    instruction.opcode ≠ .callHook type := by
  induction planned with
  | nil => exact fun instruction member => plain instruction (Array.mem_toList_iff.1 (List.mem_of_mem_take member))
  | cons plan rest ih =>
    obtain ⟨first, inside⟩ := List.forall_mem_cons.1 inside
    obtain ⟨here, behind⟩ := List.forall_mem_cons.1 behind
    intro instruction member type called
    have size := Insertable.size_le_insertAll code rest
    rw [insertAll_cons, toList_insertAfter, List.append_assoc, List.take_append_of_le_length (by simp; omega),
      List.take_take, Nat.min_eq_left (by omega), ← List.map_take] at member
    obtain ⟨original, earlier, rfl⟩ := List.mem_map.1 member
    exact ih inside behind original earlier type (Opcode.mapTarget_eq_callHook called)

/-- Each inserted call is made with the number of its site, and there are no other calls. -/
theorem hookNumbers_insertAll (insertable : Insertable code planned)
    (sequences : ∀ plan ∈ planned, plan.sequence.toList.map (·.opcode) = plan.site.hookCode)
    (plain : ∀ instruction ∈ code, ∀ type, instruction.opcode ≠ .callHook type) :
    hookNumbers none ((insertAll code planned).toList.map (·.opcode)) = planned.map (·.site.operand) := by
  induction planned with
  | nil =>
    refine hookNumbers_of_plain (List.forall_mem_map.2 fun instruction member => plain instruction ?_)
    exact Array.mem_toList_iff.1 member
  | cons plan rest ih =>
    obtain ⟨here, sequences⟩ := List.forall_mem_cons.1 sequences
    have later := ih insertable.tail sequences
    have front : ∀ opcode ∈ ((insertAll code rest).toList.take (plan.index + 1)).map (·.opcode), ∀ type,
        opcode ≠ .callHook type :=
      List.forall_mem_map.2 (plain_insertAll plain insertable.tail.inside fun each member =>
        Nat.le_of_lt (insertable.behind each member))
    have next : ∀ type, (((insertAll code rest).toList.drop (plan.index + 1)).map (·.opcode)).head? ≠ some
        (.callHook type) := by
      intro type first
      rw [List.head?_map, List.head?_drop, Option.map_eq_some_iff] at first
      obtain ⟨instruction, listed, called⟩ := first
      have member : instruction ∈ (insertAll code rest).toList.take (plan.index + 1 + 1) :=
        List.mem_of_getElem? (i := plan.index + 1) (by rw [List.getElem?_take_of_lt (by omega), listed])
      exact plain_insertAll plain insertable.tail.inside (fun each among => insertable.behind each among)
        instruction member type called
    have shifted (instructions : List Instruction) (f : Nat → Nat) :
        (instructions.map (·.mapTarget f)).map (·.opcode) = (instructions.map (·.opcode)).map (·.mapTarget f) := by
      rw [List.map_map, List.map_map]
      rfl
    have whole := List.take_append_drop (plan.index + 1) (insertAll code rest).toList
    rw [← whole, List.map_append, hookNumbers_append next, hookNumbers_of_plain front, List.nil_append] at later
    have after : ∀ type, ((((insertAll code rest).toList.drop (plan.index + 1)).map (·.opcode)).map
        (·.mapTarget (shiftTarget plan.index plan.sequence.size))).head? ≠ some (.callHook type) := by
      intro type first
      rw [List.head?_map, Option.map_eq_some_iff] at first
      obtain ⟨opcode, first, called⟩ := first
      exact next type (Opcode.mapTarget_eq_callHook called ▸ first)
    have begins :
        ∀ type, (plan.site.hookCode ++ (((insertAll code rest).toList.drop (plan.index + 1)).map (·.opcode)).map
        (·.mapTarget (shiftTarget plan.index plan.sequence.size))).head? ≠ some (.callHook type) := by
      intro type
      unfold Site.hookCode Site.hookCall
      split <;> exact fun first => by cases first
    rw [insertAll_cons, toList_insertAfter, List.append_assoc, List.map_append, List.map_append,
      ← List.map_take, ← List.map_drop,
      shifted, shifted, here, hookNumbers_append begins, hookNumbers_mapTarget, hookNumbers_of_plain front,
      List.nil_append,
      hookNumbers_append after, hookNumbers_mapTarget, Site.hookNumbers_hookCode, later]
    rfl

end Inserted

/-- No hook calls are in the code. -/
def Method.Unhooked (method : Method) : Prop :=
  ∀ instruction ∈ method.code, ∀ type, instruction.opcode ≠ .callHook type

/-- A site that is the record of a method's load. -/
structure Site.Records (site : Site) (fields : FieldTypes) (method : Method) (index : Nat) : Prop where
  type : method.loadType? fields index = some site.type
  location : locationAt method.code index = some site.location
  name : site.method = method.qualifiedName

/-- The observed loads of methods, in the order of the text. -/
def observedIn (fields : FieldTypes) (methods : List Method) : List (Method × Nat) :=
  methods.flatMap fun method => (method.loads fields).map fun index => (method, index)

section Instrumented

variable {fields : FieldTypes} {next last : UInt32} {method : Method} {methods : List Method}
  {planned : List PlannedSite} {records : List Site}

theorem Method.hookNumbers_insertSequences
    (found : method.planSites fields method.code.toList.zipIdx next = (.ok planned, last))
    (unhooked : method.Unhooked) : (method.insertSequences planned).hookNumbers = planned.map (·.site.operand) := by
  rw [hookNumbers, code_insertSequences found]
  refine hookNumbers_insertAll (insertable_of_planSites found) (fun plan member => ?_) unhooked
  obtain ⟨position, listed⟩ := List.mem_iff_getElem?.1 member
  have sound := (planSites_sound placed_zipIdx found).2.1 position plan listed
  rw [sound.sequence, List.map_map]
  exact List.map_id' _

/-- What is planned for a method are the records of its loads, in order. -/
theorem Method.records_of_planSites
    (found : method.planSites fields method.code.toList.zipIdx next = (.ok planned, last)) :
    List.Forall₂ (fun site load => site.Records fields load.1 load.2) (planned.map (·.site))
      ((method.loads fields).map fun index => (method, index)) := by
  rw [← planned_indices found, List.map_map, List.forall₂_map_left_iff, List.forall₂_map_right_iff, List.forall₂_same]
  intro plan member
  obtain ⟨position, listed⟩ := List.mem_iff_getElem?.1 member
  have sound := (planSites_sound placed_zipIdx found).2.1 position plan listed
  exact ⟨sound.type, sound.location, sound.name⟩

/-- What is planned for a method is numbered through. -/
theorem Method.ids_of_planSites
    (found : method.planSites fields method.code.toList.zipIdx next = (.ok planned, last)) :
    planned.map (·.site.id) = (List.range planned.length).map fun position => next + .ofNat position := by
  refine List.ext_getElem? fun position => ?_
  rw [List.getElem?_map, List.getElem?_map]
  cases listed : planned[position]? with
  | none =>
    rw [List.getElem?_eq_none_iff] at listed
    rw [List.getElem?_eq_none (by rwa [List.length_range]), Option.map_none, Option.map_none]
  | some plan =>
    obtain ⟨inside, -⟩ := List.getElem?_eq_some_iff.1 listed
    rw [List.getElem?_range inside, Option.map_some, Option.map_some,
      ((planSites_sound placed_zipIdx found).2.1 position plan listed).number]

/-- The records are those of the observed loads, in their order. -/
theorem instrumentMethods_records (found : (instrumentMethods fields methods next).sites = .ok records) :
    List.Forall₂ (fun site load => site.Records fields load.1 load.2) records (observedIn fields methods) := by
  induction methods generalizing next records with
  | nil =>
    cases found
    exact .nil
  | cons method rest ih =>
    obtain ⟨planned, last, listed, search, later, rfl, -, -⟩ := instrumentMethods_ok found
    rw [observedIn, List.flatMap_cons]
    exact List.rel_append (Method.records_of_planSites search) (ih later)

/-- The sites of methods that are instrumented in order are numbered through. -/
theorem instrumentMethods_ids (found : (instrumentMethods fields methods next).sites = .ok records) :
    records.map (·.id) = (List.range records.length).map (fun position => next + .ofNat position) ∧
      (instrumentMethods fields methods next).next = next + .ofNat records.length := by
  induction methods generalizing next records with
  | nil =>
    cases found
    exact ⟨rfl, by simp [instrumentMethods]⟩
  | cons method rest ih =>
    obtain ⟨planned, last, listed, search, later, rfl, -, finish⟩ := instrumentMethods_ok found
    obtain ⟨ids, onward⟩ := ih later
    have between : last = next + .ofNat planned.length := (Method.planSites_sound Method.placed_zipIdx search).2.2
    constructor
    · rw [List.map_append, List.map_map, ids, List.length_append, List.length_map, List.range_add,
        List.map_append, List.map_map]
      refine congrArg₂ _ (Method.ids_of_planSites search) (List.map_congr_left fun position _ => ?_)
      rw [between, Function.comp_apply, UInt32.ofNat_add, UInt32.add_assoc]
    · rw [finish, onward, between, List.length_append, List.length_map, UInt32.ofNat_add, UInt32.add_assoc]

/-- Hook calls are made with the numbers of the records, one after the other. -/
theorem instrumentMethods_hookNumbers (found : (instrumentMethods fields methods next).sites = .ok records)
    (unhooked : ∀ method ∈ methods, method.Unhooked) :
    (instrumentMethods fields methods next).methods.flatMap Method.hookNumbers = records.map Site.operand := by
  induction methods generalizing next records with
  | nil =>
    cases found
    rfl
  | cons method rest ih =>
    obtain ⟨here, unhooked⟩ := List.forall_mem_cons.1 unhooked
    obtain ⟨planned, last, listed, search, later, rfl, done, -⟩ := instrumentMethods_ok found
    rw [done, List.flatMap_cons, ih later unhooked, Method.hookNumbers_insertSequences search here,
      List.map_append, List.map_map]
    rfl

end Instrumented

namespace Module

variable {fields : FieldTypes} {next last : UInt32} {module done : Module}

/-- An instrumented module's sites are the records of its loads in the order of the text, numbered through
from the first number free, and its hook calls are made with their numbers if there were none before. -/
structure Numbered (module : Module) (fields : FieldTypes) (next : UInt32) (done : Module) : Prop where
  records : List.Forall₂ (fun site load => site.Records fields load.1 load.2) done.sites
    (observedIn fields module.methods)
  ids : done.sites.map (·.id) = (List.range done.sites.length).map fun position => next + .ofNat position
  operands : (∀ method ∈ module.methods, method.Unhooked) → done.hookNumbers = done.sites.map Site.operand

/-- Instrumenting numbers the records from the id it is given, and ends behind the last. -/
theorem instrumented_numbered (found : module.instrumented fields next = .ok (done, last)) :
    module.Numbered fields next done ∧ last = next + .ofNat done.sites.length := by
  unfold instrumented instrument at found
  cases listed : (instrumentMethods fields module.methods next).sites with
  | error failure =>
    simp only [listed] at found
    cases found
  | ok records =>
    simp only [listed] at found
    cases found
    obtain ⟨ids, onward⟩ := instrumentMethods_ids listed
    exact ⟨⟨instrumentMethods_records listed, ids, instrumentMethods_hookNumbers listed⟩, onward⟩

end Module

end Faultline
