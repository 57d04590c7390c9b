import Faultline.Proofs.Machine.Balance
import Faultline.Proofs.Machine.Renaming
import Faultline.Proofs.Site.HookedProgram
import Faultline.Site.Classify

namespace Faultline

/-- Whether some module declares a field in a class of a name that an earlier class without the field has as well. -/
def FieldHidden (modules : List Module) (field : Member) : Prop :=
  (∃ first, modules.findSome? (·.class? field.owner) = some first ∧ first.field? field.name = none) ∧
    ∃ module ∈ modules, ∃ declared, module.field? field = some declared

theorem Module.fieldType?_eq_none {module : Module} {field : Member} :
    module.fieldType? field = none ↔ module.field? field = none := by
  rw [fieldType?, Option.map_eq_none_iff]

theorem Module.fieldType?_of_no_class {module : Module} {field : Member}
    (missing : module.class? field.owner = none) :
    module.fieldType? field = none := by
  rw [fieldType?_eq_none, field?, missing]
  rfl

theorem Module.fieldType?_of_class {module : Module} {field : Member} {owner : Class}
    (found : module.class? field.owner = some owner) :
    module.fieldType? field = (owner.field? field.name).map (·.type) := by
  rw [fieldType?, field?, found]
  rfl

theorem fieldTypeIn?_eq_none {modules : List Module} {field : Member} :
    fieldTypeIn? modules field = none ↔ ∀ module ∈ modules, module.field? field = none := by
  rw [fieldTypeIn?, List.findSome?_eq_none_iff]
  simp only [Module.fieldType?_eq_none]

/-- Modules before the first class of a field's name do not count. -/
theorem fieldTypeIn?_of_first {modules : List Module} {field : Member} {first : Class} {declared : Field}
    (found : modules.findSome? (·.class? field.owner) = some first) (has : first.field? field.name = some declared) :
    fieldTypeIn? modules field = some declared.type := by
  obtain ⟨before, module, after, rfl, here, missing⟩ := List.findSome?_eq_some_iff.1 found
  have none : before.findSome? (·.fieldType? field) = none :=
    List.findSome?_eq_none_iff.2 fun earlier listed => Module.fieldType?_of_no_class (missing earlier listed)
  rw [fieldTypeIn?, List.findSome?_append, none, List.findSome?_cons, Module.fieldType?_of_class here, has]
  rfl

namespace Program

variable {program : Program} {modules : List Module}

/-- A reference finds the one method that is declared by it, wherever it stands. -/
theorem method_eq_ok {name : Member} {method : Method} :
    program.method name = .ok method ↔ program.Declares method ∧ method.member = name := by
  have named : ∀ found, program.method name = .ok found → program.Declares found ∧ found.member = name := by
    intro found resolved
    refine ⟨declares_of_method resolved, ?_⟩
    obtain ⟨module, _, here⟩ := List.exists_of_findSome?_eq_some (method_eq_ok_iff.1 resolved)
    simpa using List.find?_some here
  refine ⟨named method, ?_⟩
  rintro ⟨⟨module, listed, declared⟩, rfl⟩
  cases resolved : program.method method.member with
  | ok found =>
    obtain ⟨⟨other, listed', declared'⟩, same⟩ := named found resolved
    rw [method_unique program.nodup listed' listed declared' declared same]
  | error failure =>
    rw [method_eq] at resolved
    cases found : program.modules.findSome? (·.method? method.member) with
    | some first =>
      rw [found] at resolved
      cases resolved
    | none =>
      have missing := List.find?_eq_none.1 (List.findSome?_eq_none_iff.1 found module listed) method declared
      simp at missing

/-- A field is looked for in the first class of its name, and nowhere else. -/
theorem field_eq_ok {field : Member} {declared : Field} : program.field field = .ok declared ↔
    ∃ first, program.modules.findSome? (·.class? field.owner) = some first ∧
    first.field? field.name = some declared := by
  rw [Program.field, findClass_eq]
  cases program.modules.findSome? (·.class? field.owner) with
  | none => simp [bind, Except.bind]
  | some first =>
    simp only [Option.elim_some, bind, Except.bind, Option.some.injEq, exists_eq_left']
    cases first.field? field.name <;> simp

/-- A field fails to resolve because no module has its class, or because the first such class lacks it. -/
theorem field_eq_error {field : Member} {failure : RuntimeError} (failed : program.field field = .error failure) :
    program.modules.findSome? (·.class? field.owner) = none ∨
      ∃ first, program.modules.findSome? (·.class? field.owner) = some first ∧ first.field? field.name = none := by
  cases found : program.modules.findSome? (·.class? field.owner) with
  | none => exact Or.inl rfl
  | some first =>
    refine Or.inr ⟨first, rfl, ?_⟩
    cases has : first.field? field.name with
    | none => rfl
    | some declared =>
      rw [field_eq_ok.2 ⟨first, found, has⟩] at failed
      cases failed

/-- Where the machine does not find a field, the instrumenter finds one only in a class that is hidden. -/
theorem fieldTypeIn?_of_error {field : Member} {failure : RuntimeError}
    (failed : program.field field = .error failure) :
    fieldTypeIn? program.modules field = none ↔ ¬ FieldHidden program.modules field := by
  rw [fieldTypeIn?_eq_none]
  constructor
  · rintro absent ⟨_, module, listed, declared, found⟩
    rw [absent module listed] at found
    cases found
  · intro exposed module listed
    rcases field_eq_error failed with missing | ⟨first, found, lacks⟩
    · have noClass := List.findSome?_eq_none_iff.1 missing module listed
      exact Module.fieldType?_eq_none.1 (Module.fieldType?_of_no_class noClass)
    · exact Option.eq_none_iff_forall_ne_some.2 fun declared has =>
        exposed ⟨⟨first, found, lacks⟩, module, listed, declared, has⟩

/-- The analyses of linked modules know methods and fields as the program does: a method by the one
declaration there is of it, a field by the first class of its name. Only of a field that this class lacks and
a later class of the name has do the analyses know a type, where the program finds no field. -/
theorem analyses_resolve (linked : Program.link modules = .ok program) :
    (∀ callee, (∀ method, program.method callee = .ok method ↔
          (∃ module ∈ modules, method ∈ module.methods) ∧ method.member = callee) ∧
        signatureIn? modules callee = (program.method callee).toOption.map fun method =>
          (method.argCount, if method.returns.isSome then 1 else 0)) ∧
    ∀ field, (∀ declared, program.field field = .ok declared → fieldTypeIn? modules field = some declared.type) ∧
      ∀ failure, program.field field = .error failure →
      (fieldTypeIn? modules field = none ↔ ¬ FieldHidden modules field) := by
  obtain rfl := link_modules linked
  refine ⟨fun callee => ⟨fun method => method_eq_ok, signatureIn?_eq program callee⟩, fun field => ⟨?_, ?_⟩⟩
  · intro declared resolved
    obtain ⟨first, found, has⟩ := field_eq_ok.1 resolved
    exact fieldTypeIn?_of_first found has
  · exact fun failure failed => fieldTypeIn?_of_error failed

end Program

/-- A module with one class of fields, and with a method that returns a number. -/
def ledgerModule (name : String) (fields : List Field) : Module :=
  { name, optimized := false, debugInfo := .full, metadata := .empty, classes := [⟨"Ledger", fields⟩], sites := []
    methods := [
      { owner := name, name := "sum", isStatic := false, params := [.int32], locals := [], returns := some .int32
        attributes := [], body := some #[⟨.loadArg 1, none⟩, ⟨.return, none⟩] }] }

/-- Of two declarations of one class the first counts for both sides, here with a field that the second one
gives another type. -/
theorem Program.analyses_resolve_repeated : ∃ program,
    Program.link [ledgerModule "First" [⟨"total", .int32, true⟩], ledgerModule "Second" [⟨"total", .string, true⟩]] =
      .ok program ∧
    (∃ method, program.method ⟨"Second", "sum"⟩ = .ok method) ∧
    signatureIn? [ledgerModule "First" [⟨"total", .int32, true⟩], ledgerModule "Second" [⟨"total", .string, true⟩]]
      ⟨"Second", "sum"⟩ = some (2, 1) ∧
    fieldTypeIn? [ledgerModule "First" [⟨"total", .int32, true⟩], ledgerModule "Second" [⟨"total", .string, true⟩]]
      ⟨"Ledger", "total"⟩ = some .int32 := by
  obtain ⟨program, linked, found, declared⟩ : ∃ program,
      Program.link [ledgerModule "First" [⟨"total", .int32, true⟩],
        ledgerModule "Second" [⟨"total", .string, true⟩]] =
        .ok program ∧ (∃ method, program.method ⟨"Second", "sum"⟩ = .ok method ∧ method.callEffect = (2, 1)) ∧
      program.field ⟨"Ledger", "total"⟩ = .ok ⟨"total", .int32, true⟩ := ⟨_, rfl, ⟨_, rfl, rfl⟩, rfl⟩
  obtain ⟨methods, fields⟩ := Program.analyses_resolve linked
  obtain ⟨method, resolved, effect⟩ := found
  refine ⟨program, linked, ⟨method, resolved⟩, ?_, (fields _).1 _ declared⟩
  rw [(methods _).2, resolved]
  exact congrArg some effect

/-- A field that only the second declaration of its class has is one to the analyses and none to the program. -/
theorem Program.analyses_resolve_hidden : ∃ program,
    Program.link [ledgerModule "First" [], ledgerModule "Second" [⟨"total", .int32, true⟩]] = .ok program ∧
    program.field ⟨"Ledger", "total"⟩ = .error (.unknownField "Ledger::total") ∧
    fieldTypeIn? [ledgerModule "First" [], ledgerModule "Second" [⟨"total", .int32, true⟩]]
      ⟨"Ledger", "total"⟩ = some .int32 :=
  ⟨_, rfl, rfl, rfl⟩

end Faultline
