import Mathlib.Data.List.Nodup
import Faultline.Machine.Program
import Faultline.Proofs.Table

namespace Faultline

instance : Std.LawfulEqOrd Member where
  eq_of_compare {a b} same := by
    obtain ⟨owner, name⟩ := Ordering.then_eq_eq.1 same
    cases a
    cases b
    rw [Member.mk.injEq]
    exact ⟨Std.LawfulEqCmp.eq_of_compare owner, Std.LawfulEqCmp.eq_of_compare name⟩

/-- The methods that modules declare, in the order in which they are linked. -/
def declaredMethods (modules : List Module) : List Member :=
  modules.flatMap fun module => module.methods.map Method.member

section Placed

variable {α : Type} {items : Module → List α} {modules : List Module}

/-- What a module declares, with its places, where the module itself is the one at `index`. -/
def placedIn (index : Nat) (listed : List α) : List (α × (Nat × Nat)) :=
  listed.zipIdx.map fun (item, place) => (item, (index, place))

/-- What modules declare, with its places, where the first of them is the one at `start`. -/
def placed (items : Module → List α) (start : Nat) (modules : List Module) : List (α × (Nat × Nat)) :=
  (modules.zipIdx start).flatMap fun (module, index) => placedIn index (items module)

theorem placed_cons (start : Nat) (module : Module) :
    placed items start (module :: modules) = placedIn start (items module) ++ placed items (start + 1) modules := by
  rw [placed, List.zipIdx_cons, List.flatMap_cons]
  rfl

theorem map_fst_placedIn (index : Nat) (listed : List α) : (placedIn index listed).map Prod.fst = listed := by
  rw [placedIn, List.map_map]
  exact List.zipIdx_map_fst 0 listed

theorem map_fst_placed (items : Module → List α) (start : Nat) (modules : List Module) :
    (placed items start modules).map Prod.fst = modules.flatMap items := by
  induction modules generalizing start with
  | nil => rfl
  | cons module rest ih => rw [placed_cons, List.map_append, map_fst_placedIn, ih, List.flatMap_cons]

theorem at_of_mem_placed {item : α} {place : Nat × Nat} (listed : (item, place) ∈ placed items 0 modules) :
    modules[place.1]?.bind (fun module => (items module)[place.2]?) = some item := by
  obtain ⟨⟨module, index⟩, here, inModule⟩ := List.mem_flatMap.1 listed
  obtain ⟨⟨other, position⟩, there, same⟩ := List.mem_map.1 inModule
  cases same
  rw [List.mk_mem_zipIdx_iff_getElem?] at here there
  rw [here, Option.bind_some, there]

/-- At the first place where an item of some kind is declared stands the first such item. -/
theorem at_find?_placed (wanted : α → Bool) :
    (((placed items 0 modules).find? fun entry => wanted entry.1).map Prod.snd).bind
        (fun place => modules[place.1]?.bind fun module => (items module)[place.2]?) =
      modules.findSome? fun module => (items module).find? wanted := by
  have first : ((placed items 0 modules).find? fun entry => wanted entry.1).map Prod.fst =
      modules.findSome? fun module => (items module).find? wanted := by
    rw [← List.find?_flatMap, ← map_fst_placed items 0 modules, List.find?_map]
    rfl
  rw [← first]
  cases found : (placed items 0 modules).find? fun entry => wanted entry.1 with
  | none => rfl
  | some entry => exact at_of_mem_placed (List.mem_of_find?_eq_some found)

theorem exists_at_of_find?_placed (wanted : α → Bool) {place : Nat × Nat}
    (found : ((placed items 0 modules).find? fun entry => wanted entry.1).map Prod.snd = some place) :
    ∃ item, modules[place.1]?.bind (fun module => (items module)[place.2]?) = some item ∧ wanted item := by
  obtain ⟨entry, first, rfl⟩ := Option.map_eq_some_iff.1 found
  have fits := List.find?_some first
  exact ⟨entry.1, at_of_mem_placed (List.mem_of_find?_eq_some first), fits⟩

end Placed

namespace Links

variable {methods later : Table Member (Nat × Nat)} {links : Links} {modules : List Module}

def addClasses (classes : Table String (Nat × Nat)) (listed : List (Class × (Nat × Nat))) :
    Table String (Nat × Nat) :=
  listed.foldl (fun classes entry => addClass classes entry.1 entry.2) classes

def addMethods (methods : Table Member (Nat × Nat)) (listed : List (Method × (Nat × Nat))) :
    Except RuntimeError (Table Member (Nat × Nat)) :=
  listed.foldlM (fun methods entry => addMethod methods entry.1 entry.2) methods

/-- Of several classes with one name the first is entered. -/
theorem get?_addClasses (classes : Table String (Nat × Nat)) (listed : List (Class × (Nat × Nat))) (name : String) :
    (addClasses classes listed).get? name =
      (classes.get? name).or ((listed.find? fun entry => entry.1.name = name).map Prod.snd) := by
  induction listed generalizing classes with
  | nil => simp [addClasses]
  | cons entry rest ih =>
    rw [addClasses, List.foldl_cons]
    refine (ih _).trans ?_
    by_cases here : entry.1.name = name
    · subst here
      cases known : classes.get? entry.1.name with
      | none => simp [addClass, Table.contains, known, Table.get?_insert_self]
      | some place => simp [addClass, Table.contains, known]
    · have same : (addClass classes entry.1 entry.2).get? name = classes.get? name := by
        rw [addClass]
        split
        · rfl
        · rw [Table.get?_insert, if_neg (Ne.symm here)]
      rw [same, List.find?_cons_of_neg (by simpa using here)]

/-- Methods that have been entered are found where they were declared. -/
theorem get?_addMethods {listed : List (Method × (Nat × Nat))} (added : addMethods methods listed = .ok later)
    (name : Member) : later.get? name =
      (methods.get? name).or ((listed.find? fun entry => entry.1.member = name).map Prod.snd) := by
  induction listed generalizing methods with
  | nil =>
    cases added
    simp
  | cons entry rest ih =>
    rw [addMethods, List.foldlM_cons, addMethod] at added
    split at added
    · cases added
    · rename_i new
      rw [ih added, Table.get?_insert]
      by_cases here : entry.1.member = name
      · subst here
        have absent : methods.get? entry.1.member = none := by simpa [Table.contains] using new
        simp [absent]
      · rw [if_neg (Ne.symm here), List.find?_cons_of_neg (by simpa using here)]

/-- Methods can be entered if no two of them, nor one that was entered before, have one name. -/
theorem addMethods_iff {listed : List (Method × (Nat × Nat))} : (∃ later, addMethods methods listed = .ok later) ↔
    (listed.map fun entry => entry.1.member).Nodup ∧ ∀ entry ∈ listed, methods.get? entry.1.member = none := by
  induction listed generalizing methods with
  | nil => simp [addMethods, pure, Except.pure]
  | cons entry rest ih =>
    rw [addMethods, List.foldlM_cons, addMethod]
    split
    · rename_i known
      obtain ⟨place, found⟩ := Option.isSome_iff_exists.1 known
      constructor
      · rintro ⟨later, failed⟩
        cases failed
      · intro free
        have absent := free.2 entry (List.mem_cons_self ..)
        rw [found] at absent
        cases absent
    · rename_i new
      have absent : methods.get? entry.1.member = none := by simpa [Table.contains] using new
      refine ih.trans ?_
      rw [List.map_cons, List.nodup_cons, List.forall_mem_cons, List.mem_map]
      constructor
      · rintro ⟨once, free⟩
        have other : ∀ later ∈ rest, later.1.member ≠ entry.1.member ∧ methods.get? later.1.member = none := by
          intro later listed
          have here := free later listed
          rw [Table.get?_insert] at here
          split at here
          · cases here
          · exact ⟨‹_›, here⟩
        exact ⟨⟨fun ⟨later, listed, same⟩ => (other later listed).1 same, once⟩, absent, fun later listed =>
          (other later listed).2⟩
      · rintro ⟨⟨fresh, once⟩, -, free⟩
        refine ⟨once, fun later listed => ?_⟩
        rw [Table.get?_insert, if_neg fun same => fresh ⟨later, listed, same⟩]
        exact free later listed

theorem addModule_eq (links : Links) (index : Nat) (module : Module) : links.addModule index module =
    (addMethods links.methods (placedIn index module.methods)).map fun methods =>
      ⟨methods, addClasses links.classes (placedIn index module.classes)⟩ := by
  simp only [addModule, addMethods, addClasses, placedIn, List.foldlM_map, List.foldl_map]
  rfl

/-- Adds modules of which the first is the one at `start`. -/
def addModules (links : Links) (start : Nat) (modules : List Module) : Except RuntimeError Links :=
  (modules.zipIdx start).foldlM (fun links (module, index) => links.addModule index module) links

theorem addModules_cons (links : Links) (start : Nat) (module : Module) : links.addModules start (module :: modules) =
    links.addModule start module >>= fun links => links.addModules (start + 1) modules := by
  rw [addModules, List.zipIdx_cons, List.foldlM_cons]
  rfl

theorem addMethods_append (methods : Table Member (Nat × Nat)) (listed others : List (Method × (Nat × Nat))) :
    addMethods methods (listed ++ others) = addMethods methods listed >>= fun methods => addMethods methods others :=
  List.foldlM_append

theorem addClasses_append (classes : Table String (Nat × Nat)) (listed others : List (Class × (Nat × Nat))) :
    addClasses classes (listed ++ others) = addClasses (addClasses classes listed) others :=
  List.foldl_append

/-- The tables are what comes of all declarations, one after the other. -/
theorem addModules_eq (links : Links) (start : Nat) (modules : List Module) : links.addModules start modules =
    (addMethods links.methods (placed Module.methods start modules)).map fun methods =>
      ⟨methods, addClasses links.classes (placed Module.classes start modules)⟩ := by
  induction modules generalizing links start with
  | nil => rfl
  | cons module rest ih =>
    rw [addModules_cons, addModule_eq, placed_cons, placed_cons, addMethods_append, addClasses_append]
    cases addMethods links.methods (placedIn start module.methods) with
    | error failure => rfl
    | ok methods => exact ih ..

theorem ofModules_eq (modules : List Module) : ofModules modules =
    (addMethods .empty (placed Module.methods 0 modules)).map fun methods =>
      ⟨methods, addClasses .empty (placed Module.classes 0 modules)⟩ :=
  addModules_eq ..

/-- Modules can be linked if they declare no method twice. -/
theorem ofModules_iff : (∃ links, ofModules modules = .ok links) ↔ (declaredMethods modules).Nodup := by
  have names : ((placed Module.methods 0 modules).map fun entry => entry.1.member) = declaredMethods modules := by
    rw [declaredMethods, ← List.map_flatMap, ← map_fst_placed Module.methods 0 modules, List.map_map]
    rfl
  have free : ∀ entry ∈ placed Module.methods 0 modules,
      (.empty : Table Member (Nat × Nat)).get? entry.1.member = none :=
    fun _ _ => rfl
  rw [ofModules_eq, ← names]
  constructor
  · rintro ⟨links, added⟩
    cases methods : addMethods .empty (placed Module.methods 0 modules) with
    | error failure =>
      rw [methods] at added
      cases added
    | ok methods' => exact (addMethods_iff.1 ⟨methods', methods⟩).1
  · intro once
    obtain ⟨methods, added⟩ := addMethods_iff.2 ⟨once, free⟩
    exact ⟨_, by rw [added]; rfl⟩

end Links

namespace Program

variable {program : Program} {modules : List Module}

theorem link_modules (linked : link modules = .ok program) : program.modules = modules := by
  unfold link at linked
  split at linked <;> cases linked
  rfl

theorem nodup (program : Program) : (declaredMethods program.modules).Nodup :=
  Links.ofModules_iff.1 ⟨_, program.linked⟩

theorem link_of_nodup (distinct : (declaredMethods modules).Nodup) : ∃ program, link modules = .ok program := by
  obtain ⟨links, linked⟩ := Links.ofModules_iff.2 distinct
  unfold link
  split
  · exact ⟨_, rfl⟩
  · rename_i failed
    rw [linked] at failed
    cases failed

/-- The tables of a linked program are those that its own modules fill. -/
theorem tables (program : Program) :
    Links.addMethods .empty (placed Module.methods 0 program.modules) = .ok program.methods ∧
      program.classes = Links.addClasses .empty (placed Module.classes 0 program.modules) := by
  have linked := program.linked
  rw [Links.ofModules_eq] at linked
  cases added : Links.addMethods .empty (placed Module.methods 0 program.modules) with
  | error failure =>
    rw [added] at linked
    cases linked
  | ok methods =>
    rw [added] at linked
    have links : _ = program.toLinks := Except.ok.inj linked
    exact ⟨by rw [← links], by rw [← links]⟩

/-- The place that is found for a method is that of the first one of its name. -/
theorem methodAt?_get? (program : Program) (name : Member) :
    (program.methods.get? name).bind program.methodAt? = program.modules.findSome? (·.method? name) := by
  rw [Links.get?_addMethods program.tables.1]
  exact at_find?_placed fun declared : Method => declared.member = name

theorem classAt?_get? (program : Program) (name : String) :
    (program.classes.get? name).bind program.classAt? = program.modules.findSome? (·.class? name) := by
  rw [program.tables.2, Links.get?_addClasses]
  exact at_find?_placed fun declared : Class => declared.name = name

/-- There is a method at every place that has been entered. -/
theorem exists_methodAt? {name : Member} {place : Nat × Nat} (entered : program.methods.get? name = some place) :
    ∃ declared, program.methodAt? place = some declared ∧ declared.member = name := by
  rw [Links.get?_addMethods program.tables.1] at entered
  obtain ⟨declared, here, named⟩ :=
    exists_at_of_find?_placed (fun declared : Method => declared.member = name) entered
  exact ⟨declared, here, of_decide_eq_true named⟩

theorem exists_classAt? {name : String} {place : Nat × Nat} (entered : program.classes.get? name = some place) :
    ∃ declared, program.classAt? place = some declared ∧ declared.name = name := by
  rw [program.tables.2, Links.get?_addClasses] at entered
  obtain ⟨declared, here, named⟩ := exists_at_of_find?_placed (fun declared : Class => declared.name = name) entered
  exact ⟨declared, here, of_decide_eq_true named⟩

/-- A method is found as the first of its name among the modules. -/
theorem method_eq (program : Program) (name : Member) : program.method name =
    (program.modules.findSome? (·.method? name)).elim (.error (.unknownMethod name.text)) .ok := by
  unfold method
  rw [methodAt?_get?]
  cases program.modules.findSome? (·.method? name) <;> rfl

theorem method_eq_ok_iff {name : Member} {declared : Method} :
    program.method name = .ok declared ↔ program.modules.findSome? (·.method? name) = some declared := by
  rw [method_eq]
  cases program.modules.findSome? (·.method? name) <;> simp

/-- A class is found as the first of its name among the modules. -/
theorem findClass_eq (program : Program) (name : String) : program.findClass name =
    (program.modules.findSome? (·.class? name)).elim (.error (.unknownClass name)) .ok := by
  unfold findClass
  rw [classAt?_get?]
  cases program.modules.findSome? (·.class? name) <;> rfl

end Program

end Faultline
