import Faultline.Code.Opcode

namespace Faultline

namespace Opcode

theorem mapTarget_of_target?_none {opcode : Opcode} (f : Nat → Nat) (straight : opcode.target? = none) :
    opcode.mapTarget f = opcode := by
  cases opcode <;> first | rfl | cases straight

theorem mapTarget_mapTarget (opcode : Opcode) (f g : Nat → Nat) :
    (opcode.mapTarget f).mapTarget g = opcode.mapTarget fun target => g (f target) := by
  cases opcode <;> rfl

theorem mapTarget_id (opcode : Opcode) : opcode.mapTarget (fun target => target) = opcode := by
  cases opcode <;> rfl

theorem target?_mapTarget (opcode : Opcode) (f : Nat → Nat) :
    (opcode.mapTarget f).target? = opcode.target?.map f := by
  cases opcode <;> rfl

theorem mapTarget_eq_callHook {f : Nat → Nat} {opcode : Opcode} {type : ValueType}
    (called : opcode.mapTarget f = .callHook type) : opcode = .callHook type := by
  cases opcode <;> first | exact called | cases called

/-- Whether the opcode neither enters nor leaves a call nor reaches the hook. -/
def isLocal : Opcode → Bool
  | .return | throw | call _ | callHook _ => false
  | _ => true

/-- Whether the opcode can be a site: it pushes one value and otherwise goes on to the next instruction. -/
def isObservable : Opcode → Bool
  | loadLocal _ | loadArg _ | loadField _ | loadStaticField _ => true
  | _ => false

theorem isLocal_of_isObservable {opcode : Opcode} (observable : opcode.isObservable) : opcode.isLocal := by
  cases opcode <;> first | rfl | cases observable

theorem target?_of_isObservable {opcode : Opcode} (observable : opcode.isObservable) : opcode.target? = none := by
  cases opcode <;> first | rfl | cases observable

end Opcode

end Faultline
