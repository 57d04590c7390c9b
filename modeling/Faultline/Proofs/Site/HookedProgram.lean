import Faultline.Proofs.Machine.Lockstep
import Faultline.Proofs.Site.Hooked

namespace Faultline

/-- Instruments the modules at the given positions in turn, numbering their sites through from `next` on. -/
def instrumentAt (fields : FieldTypes) :
    List Nat → List Module → UInt32 → Except InstrumentError (List Module × UInt32)
  | [], modules, next => .ok (modules, next)
  | position :: rest, modules, next =>
    match modules[position]? with
    | none => instrumentAt fields rest modules next
    | some module => do
      let (done, next) ← module.instrumented fields next
      instrumentAt fields rest (modules.set position done) next

/-- The observed loads of the modules at the given positions, in the order in which these are visited. -/
def loadsAt (fields : FieldTypes) (positions : List Nat) (modules : List Module) : List (Member × Nat) :=
  positions.flatMap fun position => modules[position]?.elim [] (·.loads fields)

section Distinct

variable {modules : List Module}

theorem nodup_of_declared (distinct : (declaredMethods modules).Nodup) {module : Module} (member : module ∈ modules) :
    (module.methods.map Method.member).Nodup :=
  (List.nodup_flatMap.1 distinct).1 module member

/-- A name declared at one position of linked modules is declared at no other one. -/
theorem position_unique (distinct : (declaredMethods modules).Nodup) {first second : Nat} {module other : Module}
    {declared : Member} (atFirst : modules[first]? = some module) (atSecond : modules[second]? = some other)
    (inFirst : declared ∈ module.methods.map Method.member) (inSecond : declared ∈ other.methods.map Method.member) :
    first = second := by
  have apart := (List.nodup_flatMap.1 distinct).2
  obtain ⟨insideFirst, rfl⟩ := List.getElem?_eq_some_iff.1 atFirst
  obtain ⟨insideSecond, rfl⟩ := List.getElem?_eq_some_iff.1 atSecond
  rw [List.pairwise_iff_getElem] at apart
  rcases Nat.lt_trichotomy first second with before | same | behind
  · exact absurd inSecond (apart first second insideFirst insideSecond before inFirst)
  · exact same
  · exact absurd inFirst (apart second first insideSecond insideFirst behind inSecond)

theorem method_unique (distinct : (declaredMethods modules).Nodup) {first second : Module}
    {method other : Method} (inFirst : first ∈ modules) (inSecond : second ∈ modules)
    (declared : method ∈ first.methods) (also : other ∈ second.methods)
    (same : method.member = other.member) : method = other := by
  have names : declaredMethods modules = (modules.flatMap (·.methods)).map Method.member := (List.map_flatMap ..).symm
  rw [names] at distinct
  exact List.inj_on_of_nodup_map distinct (List.mem_flatMap.2 ⟨first, inFirst, declared⟩)
    (List.mem_flatMap.2 ⟨second, inSecond, also⟩) same

/-- A numbered load is of a method that one of the listed modules declares. -/
theorem declared_of_mem_loadsAt {fields : FieldTypes} {positions : List Nat} {declared : Member} {index : Nat}
    (load : (declared, index) ∈ loadsAt fields positions modules) :
    ∃ position ∈ positions, ∃ module, modules[position]? = some module ∧
      declared ∈ module.methods.map Method.member := by
  obtain ⟨position, chosen, load⟩ := List.mem_flatMap.1 load
  cases found : modules[position]? with
  | none => simp [found] at load
  | some module =>
    rw [found] at load
    exact ⟨position, chosen, module, found, member_of_mem_loadsOf load⟩

theorem Sites.numbered_of_elsewhere {fields : FieldTypes} {positions : List Nat} {first : UInt32}
    (distinct : (declaredMethods modules).Nodup) {position : Nat} {module : Module} {method : Method}
    (placed : modules[position]? = some module) (declared : method ∈ module.methods) (unchosen : position ∉ positions)
    (index : Nat) : Sites.numbered fields (loadsAt fields positions modules) first method index = none := by
  apply Sites.numbered_of_notMem
  intro load
  obtain ⟨other, chosen, _, found, shared⟩ := declared_of_mem_loadsAt load
  exact unchosen (position_unique distinct placed found (List.mem_map_of_mem declared) shared ▸ chosen)

end Distinct

/-- A module with its methods hooked, and with the records of the sites. -/
structure Module.Instrumented (fields : FieldTypes) (sites : Sites) (module done : Module) : Prop where
  name : done.name = module.name
  classes : done.classes = module.classes
  methods : MethodsHooked fields sites module.methods done.methods done.sites

/-- Modules instrumented at some positions and left alone at every other one. -/
structure ModulesHooked (fields : FieldTypes) (sites : Sites) (positions : List Nat)
    (modules rewritten : List Module) : Prop where
  size : rewritten.length = modules.length
  untouched : ∀ position ∉ positions, rewritten[position]? = modules[position]?
  hooked : ∀ position ∈ positions, ∀ module, modules[position]? = some module →
    ∃ done, rewritten[position]? = some done ∧ Module.Instrumented fields sites module done

/-- Instrumenting one module hooks its methods, with as many ids as it has loads. -/
theorem Module.instrumented_hooked {module done : Module} {fields : FieldTypes} {first last : UInt32}
    (distinct : (module.methods.map Method.member).Nodup)
    (found : module.instrumented fields first = .ok (done, last)) :
    Module.Instrumented fields (Sites.numbered fields (module.loads fields) first) module done ∧
      last = first + .ofNat (module.loads fields).length := by
  unfold instrumented instrument at found
  cases recorded : (instrumentMethods fields module.methods first).sites with
  | error failure => simp only [recorded] at found; cases found
  | ok sites =>
    simp only [recorded] at found
    cases found
    obtain ⟨methods, next⟩ := instrumentMethods_hooked distinct recorded
    exact ⟨⟨rfl, rfl, methods⟩, next⟩

/-- Replacing a module by one with the same methods declares the same methods. -/
theorem declaredMethods_set {modules : List Module} {position : Nat} {module done : Module}
    (placed : modules[position]? = some module)
    (same : done.methods.map Method.member = module.methods.map Method.member) :
    declaredMethods (modules.set position done) = declaredMethods modules := by
  simp only [declaredMethods, List.flatMap_def, List.map_set, same]
  congr 1
  apply List.ext_getElem?
  intro other
  rw [List.getElem?_set, List.getElem?_map]
  by_cases here : position = other
  · subst here
    obtain ⟨inside, rfl⟩ := List.getElem?_eq_some_iff.1 placed
    simp [inside]
  · simp [here]

theorem Module.Hooked.members {sites : Sites} {module hooked : Module} (h : Module.Hooked sites module hooked) :
    hooked.methods.map Method.member = module.methods.map Method.member := by
  have methods := h.methods
  generalize module.methods = originals at methods
  generalize hooked.methods = rewritten at methods
  induction methods with
  | nil => rfl
  | cons here _ ih => rw [List.map_cons, List.map_cons, here.member_eq, ih]

theorem Module.Instrumented.hooked {fields : FieldTypes} {sites : Sites} {module done : Module}
    (h : Module.Instrumented fields sites module done) : Module.Hooked sites module done :=
  ⟨h.name, h.classes, h.methods.hooked⟩

namespace ModulesHooked

variable {fields : FieldTypes} {sites sites' : Sites} {positions : List Nat} {modules rewritten : List Module}

theorem congr (h : ModulesHooked fields sites positions modules rewritten)
    (same : ∀ position ∈ positions, ∀ module, modules[position]? = some module → ∀ method ∈ module.methods,
      sites method = sites' method) :
    ModulesHooked fields sites' positions modules rewritten := by
  refine ⟨h.size, h.untouched, ?_⟩
  intro position chosen module placed
  obtain ⟨done, placed', name, classes, methods⟩ := h.hooked position chosen module placed
  exact ⟨done, placed', name, classes, methods.congr (same position chosen module placed)⟩

/-- There is nothing to do where there is no module. -/
theorem skip (h : ModulesHooked fields sites positions modules rewritten) {position : Nat}
    (absent : modules[position]? = none) :
    ModulesHooked fields sites (position :: positions) modules rewritten := by
  refine ⟨h.size, ?_, ?_⟩
  · intro other unchosen
    exact h.untouched other fun chosen => unchosen (List.mem_cons_of_mem _ chosen)
  · intro other chosen module placed
    rcases List.mem_cons.1 chosen with rfl | chosen
    · rw [absent] at placed
      cases placed
    · exact h.hooked other chosen module placed

/-- One more module can be instrumented before the others. -/
theorem set {position : Nat} {module done : Module}
    (h : ModulesHooked fields sites positions (modules.set position done) rewritten)
    (fresh : position ∉ positions) (placed : modules[position]? = some module)
    (own : Module.Instrumented fields sites module done) :
    ModulesHooked fields sites (position :: positions) modules rewritten := by
  have inside : position < modules.length := (List.getElem?_eq_some_iff.1 placed).1
  have elsewhere : ∀ other ≠ position, (modules.set position done)[other]? = modules[other]? :=
    fun other away => List.getElem?_set_ne (Ne.symm away)
  refine ⟨by rw [h.size, List.length_set], ?_, ?_⟩
  · intro other unchosen
    have away : other ≠ position := fun same => unchosen (same ▸ List.mem_cons_self ..)
    rw [h.untouched other fun chosen => unchosen (List.mem_cons_of_mem _ chosen), elsewhere other away]
  · intro other chosen module' placedOther
    rcases List.mem_cons.1 chosen with rfl | chosen
    · rw [placed] at placedOther
      cases placedOther
      exact ⟨done, by rw [h.untouched other fresh, List.getElem?_set_self inside], own⟩
    · have away : other ≠ position := fun same => fresh (same ▸ chosen)
      exact h.hooked other chosen module' ((elsewhere other away).trans placedOther)

end ModulesHooked

/-- Instrumenting the listed modules one after the other numbers their loads in one sequence. By induction
over the positions: the first module takes the first ids, and the sites of the others are found in the rest of
the order, since no method is declared twice. -/
theorem instrumentAt_hooked {fields : FieldTypes} {positions : List Nat} {modules rewritten : List Module}
    {first last : UInt32} (linked : (declaredMethods modules).Nodup) (once : positions.Nodup)
    (found : instrumentAt fields positions modules first = .ok (rewritten, last)) :
    ModulesHooked fields (Sites.numbered fields (loadsAt fields positions modules) first) positions modules
      rewritten := by
  induction positions generalizing modules first with
  | nil =>
    cases found
    exact ⟨rfl, fun _ _ => rfl, fun _ chosen => absurd chosen List.not_mem_nil⟩
  | cons position rest ih =>
    obtain ⟨fresh, onceRest⟩ := List.nodup_cons.1 once
    unfold instrumentAt at found
    have visited : loadsAt fields (position :: rest) modules =
        modules[position]?.elim [] (·.loads fields) ++ loadsAt fields rest modules := List.flatMap_cons ..
    cases placed : modules[position]? with
    | none =>
      simp only [placed] at found
      rw [visited, placed, Option.elim_none, List.nil_append]
      exact (ih linked onceRest found).skip placed
    | some module =>
      simp only [placed] at found
      cases rewriting : module.instrumented fields first with
      | error failure => rw [rewriting] at found; cases found
      | ok pair =>
        obtain ⟨done, next⟩ := pair
        rw [rewriting] at found
        change instrumentAt fields rest (modules.set position done) next = _ at found
        obtain ⟨own, onward⟩ :=
          Module.instrumented_hooked (nodup_of_declared linked (List.mem_of_getElem? placed)) rewriting
        have linkedLater : (declaredMethods (modules.set position done)).Nodup := by
          rw [declaredMethods_set placed own.hooked.members]
          exact linked
        have away : ∀ other ∈ rest, (modules.set position done)[other]? = modules[other]? := by
          intro other chosen
          apply List.getElem?_set_ne
          rintro rfl
          exact fresh chosen
        have loads : loadsAt fields (position :: rest) modules =
            module.loads fields ++ loadsAt fields rest (modules.set position done) := by
          rw [visited, placed, Option.elim_some]
          exact congrArg _ (List.flatMap_congr fun other chosen => by rw [away other chosen])
        refine ((ih linkedLater onceRest found).congr ?_).set fresh placed
          ⟨own.name, own.classes, own.methods.congr ?_⟩
        · intro other chosen module' placedOther method declared
          rw [loads, Sites.numbered_append_right, ← onward]
          intro index load
          rw [away other chosen] at placedOther
          have same := position_unique linked placedOther placed (List.mem_map_of_mem declared)
            (member_of_mem_loadsOf load)
          exact fresh (same ▸ chosen)
        · intro method declared
          rw [loads, Sites.numbered_append_left]
          intro index load
          obtain ⟨other, chosen, _, placedOther, shared⟩ := declared_of_mem_loadsAt load
          rw [away other chosen] at placedOther
          have same := position_unique linked placed placedOther (List.mem_map_of_mem declared) shared
          exact fresh (same ▸ chosen)

theorem Module.unhooked {sites : Sites} {module : Module}
    (absent : ∀ method ∈ module.methods, ∀ index, sites method index = none) : Module.Hooked sites module module :=
  ⟨rfl, rfl, List.forall₂_same.2 fun method declared => Method.Hooked.unhooked (absent method declared)⟩

/-- Listed or not, every module is hooked by its own sites, which are none where it is not listed. -/
theorem ModulesHooked.forall₂ {fields : FieldTypes} {positions : List Nat} {modules rewritten : List Module}
    {first : UInt32} (linked : (declaredMethods modules).Nodup)
    (h : ModulesHooked fields (Sites.numbered fields (loadsAt fields positions modules) first) positions
      modules rewritten) :
    List.Forall₂ (Module.Hooked (Sites.numbered fields (loadsAt fields positions modules) first)) modules
      rewritten := by
  refine List.forall₂_iff_get.2 ⟨h.size.symm, ?_⟩
  intro position inside inside'
  have placed : modules[position]? = some modules[position] := List.getElem?_eq_getElem inside
  have placed' : rewritten[position]? = some rewritten[position] := List.getElem?_eq_getElem inside'
  by_cases chosen : position ∈ positions
  · obtain ⟨done, found, instrumented⟩ := h.hooked position chosen _ placed
    rw [placed'] at found
    cases found
    exact instrumented.hooked
  · have same := h.untouched position chosen
    rw [placed, placed', Option.some.injEq] at same
    simp only [List.get_eq_getElem, same]
    exact Module.unhooked fun method declared => Sites.numbered_of_elsewhere linked placed declared chosen

/-- A program with its modules hooked. -/
def Program.Hooked (sites : Sites) (program hooked : Program) : Prop :=
  List.Forall₂ (Module.Hooked sites) program.modules hooked.modules

/-- A name is declared in both forms of a module or in neither. -/
theorem Module.Hooked.method? {sites : Sites} {module hooked : Module} (h : Module.Hooked sites module hooked)
    (name : Member) :
    (module.method? name = none ∧ hooked.method? name = none) ∨
      ∃ method method', module.method? name = some method ∧ hooked.method? name = some method' ∧
        method ∈ module.methods ∧ Method.Hooked (sites method) method method' := by
  have methods := h.methods
  unfold Module.method?
  generalize module.methods = originals at methods
  generalize hooked.methods = rewritten at methods
  induction methods with
  | nil => exact Or.inl ⟨rfl, rfl⟩
  | @cons method method' _ _ here _ ih =>
    simp only [List.find?_cons, here.member_eq]
    by_cases named : method.member = name
    · simp only [named, decide_true]
      exact Or.inr ⟨method, method', rfl, rfl, List.mem_cons_self .., here⟩
    · simp only [named, decide_false]
      rcases ih with absent | ⟨found, found', first, second, declared, hooked⟩
      · exact Or.inl absent
      · exact Or.inr ⟨found, found', first, second, List.mem_cons_of_mem _ declared, hooked⟩

namespace Program.Hooked

variable {sites : Sites} {program hooked : Program}

theorem declaredMethods_eq {modules rewritten : List Module}
    (h : List.Forall₂ (Module.Hooked sites) modules rewritten) :
    declaredMethods rewritten = declaredMethods modules := by
  induction h with
  | nil => rfl
  | cons here _ ih =>
    simp only [declaredMethods, List.flatMap_cons] at ih ⊢
    rw [here.members, ih]

/-- A call resolves to corresponding methods, or fails alike. -/
theorem method (h : Program.Hooked sites program hooked) (name : Member) :
    Agree RuntimeError.Plain (fun method method' => program.Declares method ∧
      Method.Hooked (sites method) method method')
      (program.method name) (hooked.method name) := by
  have found :
      (program.modules.findSome? (·.method? name) = none ∧ hooked.modules.findSome? (·.method? name) = none) ∨
      ∃ method method', program.modules.findSome? (·.method? name) = some method ∧
        hooked.modules.findSome? (·.method? name) = some method' ∧ program.Declares method ∧
        Method.Hooked (sites method) method method' := by
    unfold Program.Hooked at h
    unfold Program.Declares
    generalize program.modules = originals at h
    generalize hooked.modules = rewritten at h
    induction h with
    | nil => exact Or.inl ⟨rfl, rfl⟩
    | @cons module module' _ _ here _ ih =>
      rcases here.method? name with ⟨absent, absent'⟩ | ⟨method, method', first, second, declared, hooked⟩
      · simp only [List.findSome?_cons, absent, absent']
        rcases ih with absent | ⟨method, method', first, second, ⟨owner, listed, declared⟩, hooked⟩
        · exact Or.inl absent
        · exact Or.inr ⟨method, method', first, second, ⟨owner, List.mem_cons_of_mem _ listed, declared⟩, hooked⟩
      · simp only [List.findSome?_cons, first, second]
        exact Or.inr ⟨method, method', rfl, rfl, ⟨module, List.mem_cons_self .., declared⟩, hooked⟩
  rw [Program.method_eq, Program.method_eq]
  rcases found with ⟨absent, absent'⟩ | ⟨method, method', first, second, declared, hooked⟩
  · simp only [absent, absent']
    exact .error ⟨rfl, rfl⟩
  · simp only [first, second]
    exact .ok ⟨declared, hooked⟩

/-- Instrumenting touches no class. -/
theorem sameClasses (h : Program.Hooked sites program hooked) : program.SameClasses hooked := by
  intro name
  have found : hooked.modules.findSome? (·.class? name) = program.modules.findSome? (·.class? name) := by
    unfold Program.Hooked at h
    generalize program.modules = originals at h
    generalize hooked.modules = rewritten at h
    induction h with
    | nil => rfl
    | cons here _ ih => rw [List.findSome?_cons, List.findSome?_cons, ih, Module.class?, Module.class?, here.classes]
  rw [Program.findClass_eq, Program.findClass_eq, found]

theorem corresponds (h : Program.Hooked sites program hooked) :
    Program.Matches (fun method method' => program.Declares method ∧ Method.Hooked (sites method) method method')
      program hooked :=
  ⟨h.sameClasses, h.method⟩

end Program.Hooked

/-- Instrumenting modules of a program gives a program with the same modules hooked. -/
theorem instrumentAt_links {positions : List Nat} {modules rewritten : List Module} {program : Program}
    {fields : FieldTypes} {first last : UInt32} (linked : Program.link modules = .ok program) (once : positions.Nodup)
    (found : instrumentAt fields positions modules first = .ok (rewritten, last)) :
    ∃ hooked, Program.link rewritten = .ok hooked ∧
      Program.Hooked (Sites.numbered fields (loadsAt fields positions modules) first) program hooked := by
  have distinct : (declaredMethods modules).Nodup := Program.link_modules linked ▸ program.nodup
  have modulesHooked := (instrumentAt_hooked distinct once found).forall₂ distinct
  obtain ⟨hooked, linked'⟩ : ∃ hooked, Program.link rewritten = .ok hooked := by
    apply Program.link_of_nodup
    rw [Program.Hooked.declaredMethods_eq modulesHooked]
    exact distinct
  refine ⟨hooked, linked', ?_⟩
  unfold Program.Hooked
  rw [Program.link_modules linked, Program.link_modules linked']
  exact modulesHooked

end Faultline
