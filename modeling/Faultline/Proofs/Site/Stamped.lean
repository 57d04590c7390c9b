import Faultline.Proofs.Code.Wrapping
import Faultline.Proofs.Table
import Faultline.Site.Fingerprint
import Faultline.Site.Instrument

namespace Faultline

variable {fields : FieldTypes} {next last : UInt32}

/-! Instrumenting changes bodies only. -/

theorem Method.qualifiedName_insertSequences (method : Method) (planned : List PlannedSite) :
    (method.insertSequences planned).qualifiedName = method.qualifiedName := by
  unfold insertSequences
  induction planned with
  | nil => rfl
  | cons plan planned ih =>
    rw [List.foldr_cons, ← ih]
    rfl

/-- Instrumenting keeps the names of the methods. -/
theorem qualifiedNames_instrumentMethods (methods : List Method) (next : UInt32) :
    (instrumentMethods fields methods next).methods.map Method.qualifiedName = methods.map Method.qualifiedName := by
  induction methods generalizing next with
  | nil => rfl
  | cons method rest ih =>
    unfold instrumentMethods
    split
    · rfl
    · rw [List.map_cons, List.map_cons, Method.qualifiedName_insertSequences, ih]

namespace Module

variable {module done : Module}

/-- Instrumenting changes the methods and the sites of a module and nothing else. -/
theorem instrumented_eq (found : module.instrumented fields next = .ok (done, last)) :
    ∃ sites, done = { module with methods := (instrumentMethods fields module.methods next).methods, sites } := by
  unfold instrumented instrument at found
  cases recorded : (instrumentMethods fields module.methods next).sites with
  | error failure =>
    simp only [recorded] at found
    cases found
  | ok sites =>
    simp only [recorded] at found
    cases found
    exact ⟨sites, rfl⟩

theorem qualifiedNames_instrumented (found : module.instrumented fields next = .ok (done, last)) :
    done.methods.map Method.qualifiedName = module.methods.map Method.qualifiedName := by
  obtain ⟨sites, rfl⟩ := instrumented_eq found
  exact qualifiedNames_instrumentMethods module.methods next

theorem stampOf_wrapped (module : Module) (fingerprint : String) :
    module.wrapped.stampOf fingerprint = module.stampOf fingerprint := rfl

theorem stampOf_stamp (module : Module) (fingerprint fingerprint' : String) :
    (module.stamp fingerprint).stampOf fingerprint' = if fingerprint = fingerprint' then .current
    else .stale fingerprint := by
  rw [stampOf, stamp, Table.get?_insert_self]

end Module

end Faultline
