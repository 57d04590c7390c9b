import Faultline.Code.StackDepth

namespace Faultline

/-- The edges from an opcode that is followed at `next` if control goes on. -/
def Opcode.edgesTo (opcode : Opcode) (next after : Nat) : List (Nat × Nat) :=
  (if opcode.isUnconditional then [] else [(next, after)]) ++ opcode.target?.toList.map (·, after)

namespace Method

variable {method : Method} {signatures : Signatures}

/-- The stack depth that the analysis finds before an instruction, if it accepts the method and control
arrives there. -/
def depthAt? (method : Method) (signatures : Signatures) (index : Nat) : Option Nat :=
  match method.stackDepths signatures with
  | .ok depths => depths[index]?.join
  | .error _ => none

/-- Where no signature is needed to tell, the method does not matter. -/
theorem effectAt_of_effect? {index : Nat} {opcode : Opcode} {sizes : Nat × Nat}
    (known : opcode.effect? = some sizes) :
    method.effectAt signatures index opcode = .ok sizes := by
  cases opcode <;> first | exact congrArg (fun found => Except.ok (found.getD (0, 0))) known | cases known

section Follow

variable {depths : Array (Option Nat)} {index depth : Nat} {rest : List (Nat × Nat)}

theorem followEdges_past (past : depths[index]? = none) :
    method.followEdges signatures depths ((index, depth) :: rest) = .error (.fallOff method.qualifiedName) := by
  rw [followEdges, dif_neg]
  simpa using past

/-- An edge to an instruction that has a depth only compares the two. -/
theorem followEdges_seen {first : Nat} (seen : depths[index]? = some (some first)) :
    method.followEdges signatures depths ((index, depth) :: rest) =
      if first = depth then method.followEdges signatures depths rest
      else .error (.inconsistent method.qualifiedName index first depth) := by
  obtain ⟨inside, here⟩ := Array.getElem?_eq_some_iff.1 seen
  rw [followEdges, dif_pos inside]
  split
  · rename_i other known
    rw [here] at known
    cases known
    rfl
  · rename_i unknown
    rw [here] at unknown
    cases unknown

/-- An edge to an instruction without a depth sets it and adds the edges out of it. -/
theorem followEdges_unseen (unseen : depths[index]? = some none) :
    method.followEdges signatures depths ((index, depth) :: rest) =
      match method.edges signatures index depth (method.code[index]?.getD default).opcode with
      | .error failure => .error failure
      | .ok next => method.followEdges signatures (depths.setIfInBounds index (some depth)) (next ++ rest) := by
  obtain ⟨inside, here⟩ := Array.getElem?_eq_some_iff.1 unseen
  rw [followEdges, dif_pos inside]
  have placed : depths.setIfInBounds index (some depth) = depths.set index (some depth) := by
    rw [Array.setIfInBounds, dif_pos inside]
  split
  · rename_i other known
    rw [here] at known
    cases known
  · cases method.edges signatures index depth (method.code[index]?.getD default).opcode with
    | error failure => rfl
    | ok next => exact congrArg (method.followEdges signatures · (next ++ rest)) placed.symm

end Follow

/-- Depths along which the edges of every instruction reached lead to the depths they say, but for edges still
pending. -/
structure Consistent (method : Method) (signatures : Signatures) (depths : Array (Option Nat))
    (pending : List (Nat × Nat)) :
    Prop where
  size : depths.size = method.code.size
  closed : ∀ index depth, depths[index]? = some (some depth) → ∃ instruction next,
    method.code[index]? = some instruction ∧
    method.edges signatures index depth instruction.opcode = .ok next ∧
      ∀ edge ∈ next, depths[edge.1]? = some (some edge.2) ∨ edge ∈ pending

namespace Consistent

variable {depths : Array (Option Nat)} {rest : List (Nat × Nat)}

/-- An edge to where control has been with the same depth is no longer needed. -/
theorem seen {index depth : Nat} (consistent : Consistent method signatures depths ((index, depth) :: rest))
    (known : depths[index]? = some (some depth)) : Consistent method signatures depths rest := by
  refine ⟨consistent.size, fun place height reached => ?_⟩
  obtain ⟨instruction, next, fetched, edges, leads⟩ := consistent.closed place height reached
  refine ⟨instruction, next, fetched, edges, fun edge listed => ?_⟩
  rcases leads edge listed with there | awaited
  · exact Or.inl there
  · rcases List.mem_cons.1 awaited with rfl | awaited
    · exact Or.inl known
    · exact Or.inr awaited

/-- An edge to a new instruction is replaced by the edges from there. -/
theorem visit {index depth : Nat} {instruction : Instruction} {next : List (Nat × Nat)}
    (consistent : Consistent method signatures depths ((index, depth) :: rest)) (inside : index < depths.size)
    (unseen : depths[index] = none) (fetched : method.code[index]? = some instruction)
    (edges : method.edges signatures index depth instruction.opcode = .ok next) :
    Consistent method signatures (depths.set index (some depth)) (next ++ rest) := by
  refine ⟨by simpa using consistent.size, fun place height reached => ?_⟩
  rw [Array.getElem?_set] at reached
  by_cases here : index = place
  · subst here
    rw [if_pos rfl] at reached
    cases reached
    exact ⟨instruction, next, fetched, edges, fun edge listed => Or.inr (List.mem_append_left rest listed)⟩
  · rw [if_neg here] at reached
    obtain ⟨other, onward, fetched, edges, leads⟩ := consistent.closed place height reached
    refine ⟨other, onward, fetched, edges, fun edge listed => ?_⟩
    rw [Array.getElem?_set]
    rcases leads edge listed with there | awaited
    · have elsewhere : index ≠ edge.1 := by
        rintro rfl
        rw [Array.getElem?_eq_getElem inside, unseen] at there
        cases there
      rw [if_neg elsewhere]
      exact Or.inl there
    · rcases List.mem_cons.1 awaited with rfl | awaited
      · exact Or.inl (if_pos rfl)
      · exact Or.inr (List.mem_append_right next awaited)

end Consistent

theorem code_getD_of_lt {index : Nat} (inside : index < method.code.size) :
    method.code[index]? = some (method.code[index]?.getD default) := by
  rw [Array.getElem?_eq_getElem inside, Option.getD_some]

/-- Following the edges to the end leaves depths that agree with all of them, the pending ones included. -/
theorem followEdges_consistent {depths final : Array (Option Nat)} {pending : List (Nat × Nat)}
    (consistent : Consistent method signatures depths pending)
    (followed : method.followEdges signatures depths pending = .ok final) :
    Consistent method signatures final [] ∧ (∀ edge ∈ pending, final[edge.1]? = some (some edge.2)) ∧
      ∀ (index depth : Nat), depths[index]? = some (some depth) → final[index]? = some (some depth) := by
  fun_induction followEdges method signatures depths pending with
  | case1 =>
    cases followed
    exact ⟨consistent, by simp, fun _ _ => id⟩
  | case2 depths index rest inside depth known ih =>
    have there : depths[index]? = some (some depth) := by rw [Array.getElem?_eq_getElem inside, known]
    obtain ⟨whole, leads, kept⟩ := ih (consistent.seen there) followed
    refine ⟨whole, fun edge listed => ?_, kept⟩
    rcases List.mem_cons.1 listed with rfl | listed
    · exact kept index depth there
    · exact leads edge listed
  | case3 => cases followed
  | case4 => cases followed
  | case5 depths index depth rest inside unseen next edges _ ih =>
    have fetched := code_getD_of_lt (consistent.size ▸ inside)
    obtain ⟨whole, leads, kept⟩ := ih (consistent.visit inside unseen fetched edges) followed
    have here : final[index]? = some (some depth) := kept index depth (by rw [Array.getElem?_set, if_pos rfl])
    refine ⟨whole, fun edge listed => ?_, fun place height reached => ?_⟩
    · rcases List.mem_cons.1 listed with rfl | listed
      · exact here
      · exact leads edge (List.mem_append_right next listed)
    · apply kept
      have elsewhere : index ≠ place := by
        rintro rfl
        rw [Array.getElem?_eq_getElem inside, unseen] at reached
        cases reached
      rw [Array.getElem?_set, if_neg elsewhere]
      exact reached
  | case6 => cases followed

/-- The depths of an accepted method agree with all edges, and the method starts with an empty stack. -/
theorem stackDepths_consistent {depths : Array (Option Nat)} (accepted : method.stackDepths signatures = .ok depths) :
    Consistent method signatures depths [] ∧ (0 < method.code.size → depths[0]? = some (some 0)) := by
  unfold stackDepths at accepted
  split at accepted
  · rename_i empty
    cases accepted
    have none : method.code.size = 0 := by simpa using empty
    exact ⟨⟨none.symm, by simp⟩, by omega⟩
  · have start : Consistent method signatures (.replicate method.code.size none) [(0, 0)] := by
      refine ⟨Array.size_replicate, fun index depth reached => ?_⟩
      rw [Array.getElem?_replicate] at reached
      split at reached <;> cases reached
    obtain ⟨whole, leads, _⟩ := followEdges_consistent start accepted
    exact ⟨whole, fun _ => leads _ (List.mem_singleton_self _)⟩

theorem depthAt?_zero {depths : Array (Option Nat)} (accepted : method.stackDepths signatures = .ok depths)
    (inside : 0 < method.code.size) : method.depthAt? signatures 0 = some 0 := by
  simp only [depthAt?, accepted, (stackDepths_consistent accepted).2 inside, Option.join_some]

/-- Edges that can be followed: the instruction takes no more than there is, and control goes on with what it
leaves. -/
theorem edges_ok {index depth : Nat} {opcode : Opcode} {next : List (Nat × Nat)}
    (found : method.edges signatures index depth opcode = .ok next) :
    ∃ pops pushes, method.effectAt signatures index opcode = .ok (pops, pushes) ∧ pops ≤ depth ∧
      next = opcode.edgesTo (index + 1) (depth - pops + pushes) := by
  unfold edges at found
  cases effect : method.effectAt signatures index opcode with
  | error failure =>
    rw [effect] at found
    cases found
  | ok sizes =>
    obtain ⟨pops, pushes⟩ := sizes
    rw [effect] at found
    simp only [bind, Except.bind, pure, Except.pure, throw, throwThe, MonadExceptOf.throw] at found
    split at found
    · cases found
    · rename_i enough
      refine ⟨pops, pushes, rfl, Nat.le_of_not_lt enough, ?_⟩
      split at found
      · rename_i straight
        cases found
        rw [Opcode.edgesTo, straight]
        exact (List.append_nil _).symm
      · rename_i target jumping
        split at found
        · cases found
        · cases found
          rw [Opcode.edgesTo, jumping]
          rfl

/-- What a depth says about its instruction: there is one, it takes no more than there is, and wherever
control goes from it there is what it leaves. -/
theorem flow_of_depthAt? {index depth : Nat} (reached : method.depthAt? signatures index = some depth) :
    ∃ instruction pops pushes, method.code[index]? = some instruction ∧
      method.effectAt signatures index instruction.opcode = .ok (pops, pushes) ∧ pops ≤ depth ∧
        (instruction.opcode.isUnconditional = false →
          method.depthAt? signatures (index + 1) = some (depth - pops + pushes)) ∧
          ∀ target, instruction.opcode.target? = some target →
            method.depthAt? signatures target = some (depth - pops + pushes) := by
  unfold depthAt? at reached ⊢
  cases accepted : method.stackDepths signatures with
  | error failure =>
    rw [accepted] at reached
    cases reached
  | ok depths =>
    rw [accepted] at reached
    have there : depths[index]? = some (some depth) := Option.join_eq_some_iff.1 reached
    obtain ⟨instruction, next, fetched, found, leads⟩ := (stackDepths_consistent accepted).1.closed index depth there
    obtain ⟨pops, pushes, effect, enough, rfl⟩ := edges_ok found
    refine ⟨instruction, pops, pushes, fetched, effect, enough, fun onward => ?_, fun target jumping => ?_⟩
    · have edge := leads (index + 1, depth - pops + pushes) (by simp [Opcode.edgesTo, onward])
      exact Option.join_eq_some_iff.2 (edge.resolve_right List.not_mem_nil)
    · have edge := leads (target, depth - pops + pushes) (by simp [Opcode.edgesTo, jumping])
      exact Option.join_eq_some_iff.2 (edge.resolve_right List.not_mem_nil)

end Method

end Faultline
