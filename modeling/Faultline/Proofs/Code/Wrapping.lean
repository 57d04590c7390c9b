import Faultline.Code.Edit
import Faultline.Proofs.Code.RoundTrip

namespace Faultline

/-! The format has four bytes for a jump target, and of a greater one it keeps the low ones. -/

def Instruction.wrapped (instruction : Instruction) : Instruction := instruction.mapTarget (· % 2 ^ 32)

def Method.wrapped (method : Method) : Method := method.mapCode (·.map Instruction.wrapped)

/-- The module that the format can hold in place of the module. -/
def Module.wrapped (module : Module) : Module := { module with methods := module.methods.map Method.wrapped }

theorem littleEndian_mod (width n : Nat) : littleEndian width (n % 256 ^ width) = littleEndian width n := by
  induction width generalizing n with
  | zero => rfl
  | succ width ih =>
    have first : UInt8.ofNat (n % 256 ^ (width + 1)) = UInt8.ofNat n := by
      rw [← UInt8.toNat_inj, UInt8.toNat_ofNat', UInt8.toNat_ofNat', pow_succ']
      exact Nat.mod_mul_right_mod n 256 (256 ^ width)
    rw [littleEndian, littleEndian, first, pow_succ', Nat.mod_mul_right_div_self, ih]

theorem encodeLength_mod (n : Nat) : encodeLength (n % 2 ^ 32) = encodeLength n :=
  littleEndian_mod 4 n

theorem Instruction.encode_wrapped (instruction : Instruction) :
    instruction.wrapped.opcode.encode = instruction.opcode.encode := by
  unfold Instruction.wrapped Instruction.mapTarget
  cases instruction.opcode with
  | jump target | jumpIfTrue target | jumpIfFalse target =>
    simp only [Opcode.mapTarget, Opcode.encode, encodeLength_mod]
  | _ => rfl

/-- A method is written in the same bytes once its targets are taken modulo `2 ^ 32`. -/
theorem Method.encode_wrapped (method : Method) : method.wrapped.encode = method.encode := by
  have code (body : Array Instruction) : encodeCode (body.map Instruction.wrapped) = encodeCode body := by
    simp only [encodeCode, encodeList, Array.toList_map, List.length_map, List.flatMap_map,
      Instruction.encode_wrapped]
  have body : encodeOption encodeCode method.wrapped.body = encodeOption encodeCode method.body := by
    unfold Method.wrapped Method.mapCode
    cases method.body with
    | none => rfl
    | some body => simp only [Option.map_some, encodeOption, code]
  unfold Method.encode
  rw [body]
  rfl

theorem Module.encode_wrapped (module : Module) : module.wrapped.encode = module.encode := by
  have methods : encodeList Method.encode module.wrapped.methods = encodeList Method.encode module.methods := by
    simp only [encodeList, Module.wrapped, List.length_map, List.flatMap_map, Method.encode_wrapped]
  unfold Module.encode
  rw [methods]
  rfl

/-- Where only jump targets are too great for the format, the module is read with those wrapped around. -/
theorem Module.decode_encode_wrapped {module : Module} (fits : module.wrapped.Fits) :
    Module.decode module.encode = .ok module.wrapped.bare := by
  have read := Module.decode_of_fits fits
  rwa [Module.encode_wrapped] at read

/-! How a module is read whose targets are too great. -/

theorem Opcode.fits_wrapped {opcode : Opcode} (fits : opcode.Fits) (move : Nat → Nat) :
    ((opcode.mapTarget move).mapTarget (· % 2 ^ 32)).Fits := by
  cases opcode with
  | jump target | jumpIfTrue target | jumpIfFalse target => exact Nat.mod_lt _ (by decide)
  | _ => exact fits

theorem Method.code_wrapped_bare {method : Method} :
    method.wrapped.bare.code = method.code.map fun instruction => instruction.wrapped.bare := by
  unfold Method.bare Method.wrapped Method.mapCode Method.code
  cases method.body <;> simp

theorem Instruction.bare_wrapped_eq {instruction : Instruction} :
    instruction.wrapped.bare = instruction.bare ↔ ∀ target, instruction.opcode.target? = some target →
    target < 2 ^ 32 := by
  obtain ⟨opcode, location⟩ := instruction
  rw [wrapped, mapTarget, bare, bare, Instruction.mk.injEq, and_iff_left rfl]
  cases opcode with
  | jump own | jumpIfTrue own | jumpIfFalse own => simp [Opcode.mapTarget, Opcode.target?]
  | _ => exact iff_of_true rfl fun _ none => by cases none

theorem Method.bare_wrapped_eq {method : Method} : method.wrapped.bare = method.bare ↔
    ∀ instruction ∈ method.code, ∀ target, instruction.opcode.target? = some target → target < 2 ^ 32 := by
  simp only [← Instruction.bare_wrapped_eq]
  unfold Method.bare Method.wrapped Method.mapCode Method.code
  rw [Method.mk.injEq]
  cases method.body with
  | none => simp
  | some body => simp [Array.map_inj_left]

theorem Module.bare_wrapped_eq {module : Module} : module.wrapped.bare = module.bare ↔
    ∀ method ∈ module.methods, ∀ instruction ∈ method.code, ∀ target,
    instruction.opcode.target? = some target → target < 2 ^ 32 := by
  simp only [← Method.bare_wrapped_eq]
  rw [Module.bare, Module.bare, Module.mk.injEq]
  simp [Module.wrapped, List.map_inj_left]

end Faultline
