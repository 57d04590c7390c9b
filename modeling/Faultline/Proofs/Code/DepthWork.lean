import Faultline.Proofs.Code.StackDepth

namespace Faultline

/-- Where the stack analysis stands: the depths noted so far, and the edges still to be taken. -/
structure Walk where
  depths : Array (Option Nat)
  pending : List (Nat × Nat)

/-- Twice the instructions not reached so far, and the pending edges: an instruction that is reached pays for
the two edges that it can add. -/
def Walk.budget (walk : Walk) : Nat := 2 * walk.depths.countP Option.isNone + walk.pending.length

theorem Opcode.length_edgesTo_le (opcode : Opcode) (next after : Nat) : (opcode.edgesTo next after).length ≤ 2 := by
  have onward : (if opcode.isUnconditional then [] else [(next, after)]).length ≤ 1 := by split <;> simp
  have jump : opcode.target?.toList.length ≤ 1 := by cases opcode.target? <;> simp
  rw [edgesTo, List.length_append, List.length_map]
  omega

namespace Method

variable {method : Method} {signatures : Signatures}

/-- Where the analysis of a method starts. In a method without instructions there is no edge to take. -/
def walkStart (method : Method) : Walk :=
  if method.code.isEmpty then ⟨#[], []⟩ else ⟨.replicate method.code.size none, [(0, 0)]⟩

/-- What the analysis does with an edge that it takes: it notes the depth of an instruction that is new and
adds the edges from there, and passes over an edge that says nothing new. -/
def takeEdge (method : Method) (signatures : Signatures) (depths : Array (Option Nat)) (edge : Nat × Nat)
    (rest : List (Nat × Nat)) : Except StackError Walk :=
  match depths[edge.1]? with
  | none => .error (.fallOff method.qualifiedName)
  | some (some first) =>
    if first = edge.2 then .ok ⟨depths, rest⟩ else .error (.inconsistent method.qualifiedName edge.1 first edge.2)
  | some none =>
    (method.edges signatures edge.1 edge.2 (method.code[edge.1]?.getD default).opcode).map fun next =>
      ⟨depths.setIfInBounds edge.1 (some edge.2), next ++ rest⟩

/-- How the analysis goes on from where it stands: it takes so many edges, one after the other, and then answers. -/
inductive Analyses (method : Method) (signatures : Signatures) :
    Walk → Nat → Except StackError (Array (Option Nat)) → Prop
  | done {depths : Array (Option Nat)} : Analyses method signatures ⟨depths, []⟩ 0 (.ok depths)
  | refused {depths : Array (Option Nat)} {edge : Nat × Nat} {rest : List (Nat × Nat)} {failure : StackError}
      (failed : method.takeEdge signatures depths edge rest = .error failure) :
      Analyses method signatures ⟨depths, edge :: rest⟩ 1 (.error failure)
  | next {depths : Array (Option Nat)} {edge : Nat × Nat} {rest : List (Nat × Nat)} {walk : Walk} {count : Nat}
      {answer : Except StackError (Array (Option Nat))}
      (took : method.takeEdge signatures depths edge rest = .ok walk)
      (later : Analyses method signatures walk count answer) :
      Analyses method signatures ⟨depths, edge :: rest⟩ (count + 1) answer

section Step

variable {depths : Array (Option Nat)} {edge : Nat × Nat} {rest : List (Nat × Nat)} {walk : Walk}

/-- Following the edges is taking the first one and following those that are pending then. -/
theorem followEdges_cons : method.followEdges signatures depths (edge :: rest) =
    (method.takeEdge signatures depths edge rest).bind fun walk =>
    method.followEdges signatures walk.depths walk.pending := by
  obtain ⟨index, depth⟩ := edge
  unfold takeEdge
  split
  · rename_i past
    exact followEdges_past past
  · rename_i first seen
    rw [followEdges_seen seen]
    split <;> rfl
  · rename_i unseen
    rw [followEdges_unseen unseen]
    cases method.edges signatures index depth (method.code[index]?.getD default).opcode <;> rfl

/-- Whatever edge is taken, less is left of the budget. -/
theorem budget_lt_of_takeEdge (took : method.takeEdge signatures depths edge rest = .ok walk) :
    walk.budget < Walk.budget ⟨depths, edge :: rest⟩ := by
  unfold takeEdge at took
  split at took
  · cases took
  · split at took
    · cases took
      simp only [Walk.budget, List.length_cons]
      omega
    · cases took
  · rename_i unseen
    obtain ⟨inside, here⟩ := Array.getElem?_eq_some_iff.1 unseen
    cases found : method.edges signatures edge.1 edge.2 (method.code[edge.1]?.getD default).opcode with
    | error failure =>
      rw [found] at took
      cases took
    | ok next =>
      rw [found] at took
      cases took
      obtain ⟨pops, pushes, -, -, rfl⟩ := edges_ok found
      have added := (method.code[edge.1]?.getD default).opcode.length_edgesTo_le (edge.1 + 1) (edge.2 - pops + pushes)
      have fewer := countP_isNone_set_lt inside here edge.2
      simp only [Walk.budget, Array.setIfInBounds, dif_pos inside, List.length_append, List.length_cons]
      omega

end Step

namespace Analyses

variable {walk : Walk} {count count' : Nat} {answer answer' : Except StackError (Array (Option Nat))}

/-- No more edges are taken than the budget says. -/
theorem count_le (run : method.Analyses signatures walk count answer) : count ≤ walk.budget := by
  induction run with
  | done => exact Nat.zero_le _
  | refused =>
    simp only [Walk.budget, List.length_cons]
    omega
  | next took _ ih =>
    have := budget_lt_of_takeEdge took
    omega

/-- A counted analysis answers what the analysis does. -/
theorem answer_eq (run : method.Analyses signatures walk count answer) :
    answer = method.followEdges signatures walk.depths walk.pending := by
  induction run with
  | done => rw [followEdges]
  | refused failed =>
    rw [followEdges_cons, failed]
    rfl
  | next took _ ih =>
    rw [followEdges_cons, took]
    exact ih

/-- The number of edges an analysis takes is determined by where it starts. -/
theorem count_eq (run : method.Analyses signatures walk count answer)
    (run' : method.Analyses signatures walk count' answer') :
    count = count' := by
  induction run generalizing count' with
  | done =>
    cases run'
    rfl
  | refused failed =>
    cases run' with
    | refused => rfl
    | next took => cases failed.symm.trans took
  | next took _ ih =>
    cases run' with
    | refused failed => cases failed.symm.trans took
    | next took' later =>
      cases took.symm.trans took'
      rw [ih later]

end Analyses

/-- The analysis comes to an end from wherever it stands. -/
theorem exists_analyses (walk : Walk) : ∃ count answer, method.Analyses signatures walk count answer := by
  -- The pending edges can become more, so the induction is on the budget.
  induction walk using (measure Walk.budget).wf.induction with
  | _ walk ih =>
    obtain ⟨depths, pending⟩ := walk
    cases pending with
    | nil => exact ⟨0, _, .done⟩
    | cons edge rest =>
      cases took : method.takeEdge signatures depths edge rest with
      | error failure => exact ⟨1, _, .refused took⟩
      | ok later =>
        obtain ⟨count, answer, run⟩ := ih later (budget_lt_of_takeEdge took)
        exact ⟨count + 1, answer, .next took run⟩

theorem budget_walkStart_le : method.walkStart.budget ≤ 2 * method.code.size + 1 := by
  unfold walkStart
  split
  · exact Nat.zero_le _
  · simp only [Walk.budget, Array.countP_replicate, Option.isNone_none, if_true, List.length_singleton, Nat.le_refl]

theorem stackDepths_eq :
    method.stackDepths signatures = method.followEdges signatures method.walkStart.depths
      method.walkStart.pending := by
  unfold stackDepths walkStart
  split
  · rw [followEdges]
  · rfl

/-- Before the analysis of a method answers, it takes at most twice as many edges as there are instructions,
and one more, whatever the loops of the method do to the depth. How many it takes and what it answers is
determined. -/
theorem stackDepths_linear (method : Method) (signatures : Signatures) :
    ∃ taken ≤ 2 * method.code.size + 1, ∀ count answer,
      method.Analyses signatures method.walkStart count answer ↔ count = taken ∧
      answer = method.stackDepths signatures := by
  obtain ⟨taken, answer, run⟩ := @exists_analyses method signatures method.walkStart
  have answered : answer = method.stackDepths signatures := by rw [stackDepths_eq, run.answer_eq]
  refine ⟨taken, Nat.le_trans run.count_le budget_walkStart_le, fun count answer' => ⟨fun run' => ?_, ?_⟩⟩
  · exact ⟨run'.count_eq run, by rw [stackDepths_eq, run'.answer_eq]⟩
  · rintro ⟨rfl, rfl⟩
    exact answered ▸ run

end Method

end Faultline
