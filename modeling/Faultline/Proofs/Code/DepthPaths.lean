import Faultline.Proofs.Code.StackDepth

namespace Faultline

theorem Opcode.mem_edgesTo {opcode : Opcode} {next after : Nat} {edge : Nat × Nat} :
    edge ∈ opcode.edgesTo next after ↔
      (opcode.isUnconditional = false ∧ edge = (next, after)) ∨ ∃ target, opcode.target? = some target ∧
      edge = (target, after) := by
  unfold edgesTo
  cases opcode.isUnconditional <;> simp [eq_comm]

namespace Method

/-- How many values an instruction of the method pops and then pushes, unless it is a call of an unknown method. -/
def effect? (method : Method) (signatures : Signatures) (opcode : Opcode) : Option (Nat × Nat) :=
  match opcode with
  | .call callee => signatures callee
  | .return => some (if method.returns.isSome then 1 else 0, 0)
  | other => other.effect?

/-- The depths with which control arrives at instructions, from the first one along all paths on which every
instruction finds the values that it pops. A path may lead out of the body. -/
inductive Reaches (method : Method) (signatures : Signatures) : Nat → Nat → Prop
  | start : Reaches method signatures 0 0
  | onward {index depth pops pushes : Nat} {instruction : Instruction}
      (reached : Reaches method signatures index depth) (here : method.code[index]? = some instruction)
      (sizes : method.effect? signatures instruction.opcode = some (pops, pushes)) (enough : pops ≤ depth)
      (flows : instruction.opcode.isUnconditional = false) :
      Reaches method signatures (index + 1) (depth - pops + pushes)
  | branch {index depth pops pushes target : Nat} {instruction : Instruction}
      (reached : Reaches method signatures index depth) (here : method.code[index]? = some instruction)
      (sizes : method.effect? signatures instruction.opcode = some (pops, pushes)) (enough : pops ≤ depth)
      (jumps : instruction.opcode.target? = some target) : Reaches method signatures target (depth - pops + pushes)

/-- What is asked of every instruction at which control arrives, and of the depth. -/
structure Passable (method : Method) (signatures : Signatures) (index depth : Nat) : Prop where
  inside : index < method.code.size
  resolved : ∀ callee, method.code[index].opcode = .call callee → (signatures callee).isSome
  enough : ∀ pops pushes, method.effect? signatures method.code[index].opcode = some (pops, pushes) → pops ≤ depth
  lands : ∀ target, method.code[index].opcode.target? = some target → target < method.code.size
  sole : ∀ other, method.Reaches signatures index other → other = depth

variable {method : Method} {signatures : Signatures} {index depth : Nat} {opcode : Opcode}

theorem effectAt_eq_ok {sizes : Nat × Nat} :
    method.effectAt signatures index opcode = .ok sizes ↔ method.effect? signatures opcode = some sizes := by
  cases opcode with
  | call callee => cases known : signatures callee <;> simp [effectAt, effect?, known]
  | _ => simp [effectAt, effect?, Opcode.effect?]

theorem exists_call_of_effect? (unknown : method.effect? signatures opcode = none) :
    ∃ callee, opcode = .call callee ∧ signatures callee = none := by
  cases opcode with
  | call callee => exact ⟨callee, rfl, unknown⟩
  | _ => cases unknown

/-- Edges that cannot be followed: the callee is unknown, values are missing or the target is outside. -/
theorem edges_error {failure : StackError} (failed : method.edges signatures index depth opcode = .error failure) :
    method.effect? signatures opcode = none ∨
      (∃ pops pushes, method.effect? signatures opcode = some (pops, pushes) ∧ depth < pops) ∨
        ∃ target, opcode.target? = some target ∧ method.code.size ≤ target := by
  unfold edges at failed
  cases effect : method.effectAt signatures index opcode with
  | error unknown =>
    refine Or.inl (Option.eq_none_iff_forall_ne_some.2 fun sizes known => ?_)
    rw [effectAt_eq_ok.2 known] at effect
    cases effect
  | ok sizes =>
    obtain ⟨pops, pushes⟩ := sizes
    rw [effect] at failed
    simp only [bind, Except.bind, pure, Except.pure, throw, throwThe, MonadExceptOf.throw] at failed
    split at failed
    · rename_i missing
      exact Or.inr (Or.inl ⟨pops, pushes, effectAt_eq_ok.1 effect, missing⟩)
    · split at failed
      · cases failed
      · rename_i target jumps
        split at failed
        · rename_i outside
          exact Or.inr (Or.inr ⟨target, jumps, outside⟩)
        · cases failed

/-- An instruction of which the edges cannot be followed is not passed. -/
theorem not_passable_of_edges {failure : StackError} (inside : index < method.code.size)
    (failed : method.edges signatures index depth method.code[index].opcode = .error failure) :
    ¬ method.Passable signatures index depth := by
  intro passable
  rcases edges_error failed with unknown | ⟨pops, pushes, sizes, missing⟩ | ⟨target, jumps, outside⟩
  · obtain ⟨callee, called, unresolved⟩ := exists_call_of_effect? unknown
    have resolved := passable.resolved callee called
    rw [unresolved] at resolved
    cases resolved
  · exact absurd (passable.enough pops pushes sizes) (Nat.not_le.2 missing)
  · exact absurd (passable.lands target jumps) (Nat.not_lt.2 outside)

theorem Reaches.edges {next : List (Nat × Nat)} {instruction : Instruction}
    (reached : method.Reaches signatures index depth) (here : method.code[index]? = some instruction)
    (found : method.edges signatures index depth instruction.opcode = .ok next) :
    ∀ edge ∈ next, method.Reaches signatures edge.1 edge.2 := by
  obtain ⟨pops, pushes, effect, enough, rfl⟩ := edges_ok found
  intro edge listed
  rcases Opcode.mem_edgesTo.1 listed with ⟨flows, rfl⟩ | ⟨target, jumps, rfl⟩
  · exact .onward reached here (effectAt_eq_ok.1 effect) enough flows
  · exact .branch reached here (effectAt_eq_ok.1 effect) enough jumps

/-- An answer of the analysis that the paths through the method bear out. -/
inductive BorneOut (method : Method) (signatures : Signatures) : Except StackError (Array (Option Nat)) → Prop
  | ok {depths : Array (Option Nat)}
      (reached : ∀ index depth, depths[index]? = some (some depth) → method.Reaches signatures index depth) :
      BorneOut method signatures (.ok depths)
  | error {failure : StackError} {index depth : Nat} (reached : method.Reaches signatures index depth)
      (stuck : ¬ method.Passable signatures index depth) : BorneOut method signatures (.error failure)

/-- Where all depths noted and all edges pending lie on paths, so do the depths in the end; and the analysis
gives up only at an instruction that a path does not get past. -/
theorem followEdges_borneOut {depths : Array (Option Nat)} {pending : List (Nat × Nat)}
    (size : depths.size = method.code.size)
    (noted : ∀ index depth, depths[index]? = some (some depth) → method.Reaches signatures index depth)
    (awaited : ∀ edge ∈ pending, method.Reaches signatures edge.1 edge.2) :
    BorneOut method signatures (method.followEdges signatures depths pending) := by
  fun_induction followEdges method signatures depths pending with
  | case1 depths => exact .ok noted
  | case2 depths index rest inside depth seen ih =>
    exact ih size noted fun edge listed => awaited edge (List.mem_cons_of_mem _ listed)
  | case3 depths index depth rest inside first seen differs =>
    have before : method.Reaches signatures index first :=
      noted index first (by rw [Array.getElem?_eq_getElem inside, seen])
    exact .error before fun passable => differs (passable.sole depth (awaited _ (List.mem_cons_self ..))).symm
  | case4 depths index depth rest inside unseen failure failed =>
    have within : index < method.code.size := size ▸ inside
    rw [Array.getElem?_eq_getElem within, Option.getD_some] at failed
    exact .error (awaited _ (List.mem_cons_self ..)) (not_passable_of_edges within failed)
  | case5 depths index depth rest inside unseen next found _ ih =>
    have arrived : method.Reaches signatures index depth := awaited _ (List.mem_cons_self ..)
    refine ih (by simpa using size) (fun place height placed => ?_) fun edge listed => ?_
    · rw [Array.getElem?_set] at placed
      split at placed
      · rename_i same
        cases placed
        exact same ▸ arrived
      · exact noted place height placed
    · rcases List.mem_append.1 listed with listed | listed
      · exact arrived.edges (code_getD_of_lt (size ▸ inside)) found edge listed
      · exact awaited edge (List.mem_cons_of_mem _ listed)
  | case6 depths index depth rest past =>
    exact .error (awaited _ (List.mem_cons_self ..)) fun passable => past (size ▸ passable.inside)

/-- The analysis starts with the entry at depth 0, which is reachable, and so every step keeps its answer
borne out. -/
theorem stackDepths_borneOut : BorneOut method signatures (method.stackDepths signatures) := by
  unfold stackDepths
  split
  · exact .ok fun index depth noted => by simp at noted
  · refine followEdges_borneOut Array.size_replicate (fun index depth noted => ?_) fun edge listed => ?_
    · rw [Array.getElem?_replicate] at noted
      split at noted <;> cases noted
    · rw [List.mem_singleton.1 listed]
      exact .start

/-- Depths that agree with all edges are those along the paths. -/
theorem Consistent.noted {depths : Array (Option Nat)} (consistent : Consistent method signatures depths [])
    (start : depths[0]? = some (some 0)) (reached : method.Reaches signatures index depth) :
    depths[index]? = some (some depth) := by
  have follow {index depth pops pushes : Nat} {instruction : Instruction} (noted : depths[index]? = some (some depth))
      (here : method.code[index]? = some instruction)
      (sizes : method.effect? signatures instruction.opcode = some (pops, pushes)) :
      ∀ edge ∈ instruction.opcode.edgesTo (index + 1) (depth - pops + pushes),
      depths[edge.1]? = some (some edge.2) := by
    obtain ⟨other, next, fetched, found, leads⟩ := consistent.closed index depth noted
    cases here.symm.trans fetched
    obtain ⟨pops', pushes', effect, _, rfl⟩ := edges_ok found
    cases sizes.symm.trans (effectAt_eq_ok.1 effect)
    exact fun edge listed => (leads edge listed).resolve_right List.not_mem_nil
  induction reached with
  | start => exact start
  | onward _ here sizes _ flows ih => exact follow ih here sizes _ (Opcode.mem_edgesTo.2 (Or.inl ⟨flows, rfl⟩))
  | branch _ here sizes _ jumps ih => exact follow ih here sizes _ (Opcode.mem_edgesTo.2 (Or.inr ⟨_, jumps, rfl⟩))

/-- In a method that the analysis accepts, every path gets past every instruction that it arrives at. -/
theorem passable_of_stackDepths {depths : Array (Option Nat)} (accepted : method.stackDepths signatures = .ok depths)
    (present : 0 < method.code.size) (reached : method.Reaches signatures index depth) :
    method.Passable signatures index depth := by
  obtain ⟨consistent, start⟩ := stackDepths_consistent accepted
  have noted := consistent.noted (start present) reached
  obtain ⟨instruction, next, fetched, found, leads⟩ := consistent.closed index depth noted
  obtain ⟨inside, rfl⟩ := Array.getElem?_eq_some_iff.1 fetched
  obtain ⟨pops, pushes, effect, enough, rfl⟩ := edges_ok found
  have sizes := effectAt_eq_ok.1 effect
  refine ⟨inside, fun callee called => ?_, fun _ _ known => ?_, fun target jumps => ?_, fun other arrived => ?_⟩
  · rw [called] at sizes
    exact Option.isSome_of_eq_some sizes
  · cases sizes.symm.trans known
    exact enough
  · have landed := (leads _ (Opcode.mem_edgesTo.2 (Or.inr ⟨target, jumps, rfl⟩))).resolve_right List.not_mem_nil
    exact consistent.size ▸ (Array.getElem?_eq_some_iff.1 landed).1
  · cases (consistent.noted (start present) arrived).symm.trans noted
    rfl

/-- The stack analysis decides exactly whether every path gets past every instruction that it arrives at,
whatever the order in which the paths are followed. If it accepts a method, it answers the depth with which
control arrives at each instruction, and none where control never does. -/
theorem stackDepths_decides (present : 0 < method.code.size) :
    ((∃ depths, method.stackDepths signatures = .ok depths) ↔
      ∀ index depth, method.Reaches signatures index depth → method.Passable signatures index depth) ∧
    ∀ depths, method.stackDepths signatures = .ok depths → depths.size = method.code.size ∧
      ∀ index < method.code.size,
      (∀ depth, depths[index]? = some (some depth) ↔ method.Reaches signatures index depth) ∧
      (depths[index]? = some none ↔ ∀ depth, ¬ method.Reaches signatures index depth) := by
  have borneOut : BorneOut method signatures (method.stackDepths signatures) := stackDepths_borneOut
  refine ⟨⟨fun ⟨_, accepted⟩ _ _ => passable_of_stackDepths accepted present, fun passable => ?_⟩,
    fun depths accepted => ?_⟩
  · generalize method.stackDepths signatures = answer at borneOut
    cases borneOut with
    | ok => exact ⟨_, rfl⟩
    | error reached stuck => exact absurd (passable _ _ reached) stuck
  · obtain ⟨consistent, start⟩ := stackDepths_consistent accepted
    rw [accepted] at borneOut
    refine ⟨consistent.size, fun index inside => ?_⟩
    have noted (depth : Nat) : depths[index]? = some (some depth) ↔ method.Reaches signatures index depth := by
      cases borneOut with
      | ok reached => exact ⟨reached index depth, consistent.noted (start present)⟩
    refine ⟨noted, ?_⟩
    rw [← consistent.size] at inside
    simp only [← noted, Array.getElem?_eq_getElem inside, Option.some.injEq]
    exact Option.eq_none_iff_forall_ne_some

/-- A method of which two paths meet and the last instruction is not reached. -/
def meetingMethod : Method :=
  { owner := "Paths", name := "meet", isStatic := true, params := [.bool], locals := [], returns := none,
    attributes := []
    body := some #[⟨.loadArg 0, none⟩, ⟨.jumpIfTrue 3, none⟩, ⟨.nop, none⟩, ⟨.return, none⟩, ⟨.pop, none⟩] }

/-- Two paths that meet at one depth, and an instruction behind the end. -/
theorem stackDepths_decides_meeting : 0 < meetingMethod.code.size ∧
    (∀ index depth, meetingMethod.Reaches (fun _ => none) index depth →
      meetingMethod.Passable (fun _ => none) index depth) ∧
    meetingMethod.Reaches (fun _ => none) 3 0 ∧ ∀ depth, ¬ meetingMethod.Reaches (fun _ => none) 4 depth := by
  have size : meetingMethod.code.size = 5 := rfl
  have present : 0 < meetingMethod.code.size := by omega
  have accepted : meetingMethod.stackDepths (fun _ => none) = .ok #[some 0, some 1, some 0, some 0, none] := by cbv
  obtain ⟨decided, answered⟩ := @stackDepths_decides meetingMethod (fun _ => none) present
  obtain ⟨_, known⟩ := answered _ accepted
  exact ⟨present, decided.1 ⟨_, accepted⟩, ((known 3 (by omega)).1 0).1 rfl, (known 4 (by omega)).2.1 rfl⟩

end Method

end Faultline
