import Faultline.Proofs.Code.StackDepth
import Faultline.Proofs.Machine.Agreement
import Faultline.Proofs.Site.Hooked
import Mathlib.Algebra.GroupWithZero.Nat
import Mathlib.Order.Monotone.Basic

namespace Faultline

section Relocate

variable {length : Nat → Nat}

theorem relocate_strictMono : StrictMono (relocate length) := by
  apply strictMono_nat_of_lt_succ
  intro index
  rw [relocate_succ]
  omega

end Relocate

/-- The error as it reads where the instructions have moved. -/
def StackError.moved (f : Nat → Nat) : StackError → StackError
  | underflow method index => underflow method (f index)
  | inconsistent method index first second => inconsistent method (f index) first second
  | badTarget method index target => badTarget method (f index) (f target)
  | unknownCallee method index callee => unknownCallee method (f index) callee
  | fallOff method => fallOff method

namespace Opcode

/-- Whether control goes from the opcode to the next instruction and nowhere else. -/
def isStraight (opcode : Opcode) : Bool := opcode.target?.isNone && !opcode.isUnconditional

/-- The depth that a stack has once opcodes have been executed one after the other, where they find enough on it. -/
def depthAfter? : List Opcode → Nat → Option Nat
  | [], depth => some depth
  | opcode :: rest, depth =>
    match opcode.effect? with
    | some (pops, pushes) => if depth < pops then none else depthAfter? rest (depth - pops + pushes)
    | none => none

end Opcode

namespace Site

theorem isStraight_hookCode {site : Site} {opcode : Opcode} (member : opcode ∈ site.hookCode) : opcode.isStraight :=
  forall_mem_hookCode (P := (·.isStraight)) rfl rfl rfl (fun _ => rfl) (fun _ => rfl) rfl opcode member

/-- A hook sequence finds the value it shows and leaves the answer in its place. -/
theorem depthAfter?_hookCode (site : Site) (depth : Nat) :
    Opcode.depthAfter? site.hookCode (depth + 1) = some (depth + 1) := by
  unfold hookCode hookCall
  split <;> simp [Opcode.depthAfter?, Opcode.effect?]

end Site

namespace Method

variable {method hooked : Method} {signatures : Signatures}

theorem edges_straight {index depth pops pushes : Nat} {opcode : Opcode} (straight : opcode.isStraight)
    (effect : method.effectAt signatures index opcode = .ok (pops, pushes)) (enough : pops ≤ depth) :
    method.edges signatures index depth opcode = .ok [(index + 1, depth - pops + pushes)] := by
  simp only [Opcode.isStraight, Bool.and_eq_true, Option.isNone_iff_eq_none, Bool.not_eq_true'] at straight
  unfold edges
  rw [effect]
  simp only [bind, Except.bind, pure, Except.pure, straight.1, straight.2, if_neg (Nat.not_lt.2 enough)]
  rfl

/-- Straight code that was not reached before is walked through to its end. -/
theorem followEdges_straight (signatures : Signatures) (rest : List (Nat × Nat)) {opcodes : List Opcode}
    {start depth after : Nat} {depths : Array (Option Nat)} (straight : ∀ opcode ∈ opcodes, opcode.isStraight)
    (placed : ∀ offset < opcodes.length, method.code[start + offset]?.map (·.opcode) = opcodes[offset]?)
    (unseen : ∀ offset < opcodes.length, depths[start + offset]? = some none)
    (effect : Opcode.depthAfter? opcodes depth = some after) :
    ∃ walked, method.followEdges signatures depths ((start, depth) :: rest) =
        method.followEdges signatures walked ((start + opcodes.length, after) :: rest) ∧
      walked.size = depths.size ∧
        ∀ place, (place < start ∨ start + opcodes.length ≤ place) → walked[place]? = depths[place]? := by
  induction opcodes generalizing start depth depths with
  | nil =>
    cases effect
    exact ⟨depths, rfl, rfl, fun _ _ => rfl⟩
  | cons opcode opcodes ih =>
    have here := placed 0 (Nat.succ_pos _)
    rw [Nat.add_zero, List.getElem?_cons_zero, Option.map_eq_some_iff] at here
    obtain ⟨instruction, fetched, kind⟩ := here
    unfold Opcode.depthAfter? at effect
    cases sizes : opcode.effect? with
    | none =>
      rw [sizes] at effect
      cases effect
    | some sizes' =>
      obtain ⟨pops, pushes⟩ := sizes'
      simp only [sizes] at effect
      split at effect
      · cases effect
      · rename_i enough
        have edges : method.edges signatures start depth opcode = .ok [(start + 1, depth - pops + pushes)] :=
          edges_straight (straight opcode (List.mem_cons_self ..)) (effectAt_of_effect? sizes)
            (Nat.le_of_not_lt enough)
        have first : depths[start]? = some none := unseen 0 (Nat.succ_pos _)
        have placed' : ∀ offset < opcodes.length,
            method.code[start + 1 + offset]?.map (·.opcode) = opcodes[offset]? := by
          intro offset within
          rw [Nat.add_right_comm]
          exact placed (offset + 1) (Nat.succ_lt_succ within)
        have unseen' : ∀ offset < opcodes.length,
            (depths.setIfInBounds start (some depth))[start + 1 + offset]? = some none := by
          intro offset within
          rw [Array.getElem?_setIfInBounds, if_neg (by omega), Nat.add_right_comm]
          exact unseen (offset + 1) (Nat.succ_lt_succ within)
        obtain ⟨walked, followed, size, kept⟩ :=
          ih (fun other member => straight other (List.mem_cons_of_mem _ member)) placed' unseen' effect
        refine ⟨walked, ?_, size.trans (Array.size_setIfInBounds), fun place outside => ?_⟩
        · rw [followEdges_unseen first, fetched, Option.getD_some, kind, edges]
          simp only [List.length_cons]
          rw [show start + (opcodes.length + 1) = start + 1 + opcodes.length by omega]
          exact followed
        · rw [List.length_cons] at outside
          rw [kept place (by omega), Array.getElem?_setIfInBounds, if_neg (by omega)]

end Method

namespace Opcode

theorem isUnconditional_mapTarget (opcode : Opcode) (f : Nat → Nat) :
    (opcode.mapTarget f).isUnconditional = opcode.isUnconditional := by
  cases opcode <;> rfl

theorem isObservable_mapTarget {opcode : Opcode} (observable : opcode.isObservable) (f : Nat → Nat) :
    (opcode.mapTarget f).isObservable := by
  cases opcode <;> exact observable

theorem effect?_of_isObservable {opcode : Opcode} (observable : opcode.isObservable) :
    ∃ pops, opcode.effect? = some (pops, 1) := by
  cases opcode <;> first | exact ⟨_, rfl⟩ | cases observable

theorem edgesTo_of_isObservable {opcode : Opcode} (observable : opcode.isObservable) (next after : Nat) :
    opcode.edgesTo next after = [(next, after)] := by
  cases opcode <;> first | rfl | cases observable

theorem edgesTo_mapTarget (opcode : Opcode) (f : Nat → Nat) (next after : Nat) :
    (opcode.mapTarget f).edgesTo (f next) after = (opcode.edgesTo next after).map fun edge => (f edge.1, edge.2) := by
  cases opcode <;> rfl

end Opcode

namespace Method.Hooked

variable {sites : Nat → Option Site} {method hooked : Method} {signatures : Signatures}

theorem size_le_relocate (h : Method.Hooked sites method hooked) (index : Nat) :
    hooked.code.size ≤ relocate (hookLength sites) index ↔ method.code.size ≤ index := by
  rw [← Array.getElem?_eq_none_iff, h.moved, Option.map_eq_none_iff, Array.getElem?_eq_none_iff]

/-- An instruction has the same effect on the depth at its new place, and fails alike. -/
theorem effectAt (h : Method.Hooked sites method hooked) (index : Nat) (opcode : Opcode) :
    Agree (fun failure failure' => failure' = failure.moved (relocate (hookLength sites)))
      (fun sizes sizes' => sizes' = sizes)
      (method.effectAt signatures index opcode)
      (hooked.effectAt signatures (relocate (hookLength sites) index)
        (opcode.mapTarget (relocate (hookLength sites)))) := by
  cases opcode
  case call callee =>
    simp only [Opcode.mapTarget, Method.effectAt]
    cases signatures callee with
    | none => exact .error (by rw [h.qualifiedName_eq]; rfl)
    | some effect => exact .ok rfl
  case «return» => exact .ok (by rw [h.returns_eq])
  all_goals exact .ok rfl

/-- An instruction has the same edges where it has moved to, their targets moved with it. -/
theorem edges (h : Method.Hooked sites method hooked) (signatures : Signatures) (index depth : Nat)
    (opcode : Opcode) :
    Agree (fun failure failure' => failure' = failure.moved (relocate (hookLength sites)))
      (fun next next' => ∃ after, next = opcode.edgesTo (index + 1) after ∧
        next' = (opcode.mapTarget (relocate (hookLength sites))).edgesTo
          (relocate (hookLength sites) index + 1) after)
      (method.edges signatures index depth opcode)
      (hooked.edges signatures (relocate (hookLength sites) index) depth
        (opcode.mapTarget (relocate (hookLength sites)))) := by
  refine (h.effectAt index opcode).bind ?_
  rintro ⟨pops, pushes⟩ _ rfl
  simp only [bind, Except.bind, pure, Except.pure, throw, throwThe, MonadExceptOf.throw, h.qualifiedName_eq]
  split
  · exact .error rfl
  · rw [Opcode.target?_mapTarget, Opcode.isUnconditional_mapTarget]
    cases jump : opcode.target? with
    | none =>
      refine .ok ⟨depth - pops + pushes, ?_, ?_⟩
      · simp only [Opcode.edgesTo, jump, Option.toList_none, List.map_nil, List.append_nil]
      · simp only [Opcode.edgesTo, Opcode.target?_mapTarget, Opcode.isUnconditional_mapTarget, jump, Option.map_none,
          Option.toList_none, List.map_nil, List.append_nil]
    | some target =>
      simp only [Option.map_some, h.size_le_relocate]
      split
      · exact .error rfl
      · refine .ok ⟨depth - pops + pushes, ?_, ?_⟩
        · simp only [Opcode.edgesTo, jump, Option.toList_some, List.map_cons, List.map_nil]
        · simp only [Opcode.edgesTo, Opcode.target?_mapTarget, Opcode.isUnconditional_mapTarget, jump,
            Option.map_some, Option.toList_some, List.map_cons, List.map_nil]

/-- Depths of a method and of the hooked one, as far as they have been followed in both: each instruction
reached has its depth where it has moved to, and a sequence behind a load is not reached before the load. -/
structure Follows (sites : Nat → Option Site) (method : Method) (depths depths' : Array (Option Nat)) : Prop where
  size : depths.size = method.code.size
  same : ∀ index, depths'[relocate (hookLength sites) index]? = depths[index]?
  unseen : ∀ index site, sites index = some site → depths[index]? = some none → ∀ offset < site.hookCode.length,
    depths'[relocate (hookLength sites) index + 1 + offset]? = some none

/-- Once an instruction and the sequence behind it have been walked through, the depths still go together. -/
theorem Follows.visit {depths depths' walked : Array (Option Nat)} (follows : Follows sites method depths depths')
    {index : Nat} (inside : index < depths.size) (depth : Nat)
    (reached : walked[relocate (hookLength sites) index]? = some (some depth))
    (kept : ∀ place, (place < relocate (hookLength sites) index ∨ relocate (hookLength sites) (index + 1) ≤ place) →
      walked[place]? = depths'[place]?) :
    Follows sites method (depths.set index (some depth)) walked := by
  have elsewhere : ∀ other, other ≠ index → relocate (hookLength sites) other < relocate (hookLength sites) index ∧
      relocate (hookLength sites) (other + 1) ≤ relocate (hookLength sites) index ∨
        relocate (hookLength sites) (index + 1) ≤ relocate (hookLength sites) other := by
    intro other different
    rcases Nat.lt_or_gt_of_ne different with before | behind
    · exact Or.inl ⟨relocate_strictMono before, relocate_strictMono.monotone before⟩
    · exact Or.inr (relocate_strictMono.monotone behind)
  refine ⟨(Array.size_set ..).trans follows.size, fun other => ?_, fun other site present fresh offset within => ?_⟩
  · rw [Array.getElem?_set]
    by_cases here : index = other
    · rw [if_pos here, ← here]
      exact reached
    · rw [if_neg here, kept _ ((elsewhere other (Ne.symm here)).imp_left And.left), follows.same]
  · rw [Array.getElem?_set] at fresh
    by_cases here : index = other
    · rw [if_pos here] at fresh
      cases fresh
    · rw [if_neg here] at fresh
      have behind : relocate (hookLength sites) (other + 1) = relocate
          (hookLength sites) other + 1 + hookLength sites other :=
        relocate_succ other
      have long : hookLength sites other = site.hookCode.length := by
        rw [hookLength, present, Option.elim_some, Site.length_hookCode]
      rw [kept _ ?_]
      · exact follows.unseen other site present fresh offset within
      · rcases elsewhere other (Ne.symm here) with before | behind
        · exact Or.inl (by omega)
        · exact Or.inr (by omega)

/-- What is found at an instruction that has moved is the instruction, with its target moved. -/
theorem opcode_relocated (h : Method.Hooked sites method hooked) {index : Nat} (inside : index < method.code.size) :
    (hooked.code[relocate (hookLength sites) index]?.getD default).opcode =
      (method.code[index]?.getD default).opcode.mapTarget (relocate (hookLength sites)) := by
  rw [h.moved, Array.getElem?_eq_getElem inside]
  rfl

/-- Visiting an instruction that is no load to be observed leads in both methods to the same instructions. -/
theorem visit_plain {depths depths' : Array (Option Nat)} (rest : List (Nat × Nat))
    (h : Method.Hooked sites method hooked) (follows : Follows sites method depths depths') {index depth after : Nat}
    (inside : index < depths.size) (unseen : depths[index] = none) (absent : sites index = none)
    (edges : hooked.edges signatures (relocate (hookLength sites) index) depth
      ((method.code[index]?.getD default).opcode.mapTarget (relocate (hookLength sites))) =
        .ok (((method.code[index]?.getD default).opcode.mapTarget (relocate (hookLength sites))).edgesTo
          (relocate (hookLength sites) index + 1) after)) :
    ∃ walked, Follows sites method (depths.set index (some depth)) walked ∧
      hooked.followEdges signatures depths' ((relocate (hookLength sites) index, depth) :: rest) =
        hooked.followEdges signatures walked
          (((method.code[index]?.getD default).opcode.edgesTo (index + 1) after).map
            (fun edge => (relocate (hookLength sites) edge.1, edge.2)) ++ rest) := by
  have there : depths'[relocate (hookLength sites) index]? = some none := by
    rw [follows.same, Array.getElem?_eq_getElem inside, unseen]
  have short : relocate (hookLength sites) (index + 1) = relocate (hookLength sites) index + 1 := by
    rw [relocate_succ, hookLength, absent, Option.elim_none]
  refine ⟨depths'.setIfInBounds (relocate (hookLength sites) index) (some depth),
    follows.visit inside depth ?_ ?_, ?_⟩
  · rw [Array.getElem?_setIfInBounds, if_pos rfl, if_pos (Array.getElem?_eq_some_iff.1 there).1]
  · intro place outside
    rw [Array.getElem?_setIfInBounds, if_neg (by omega)]
  · rw [Method.followEdges_unseen there, h.opcode_relocated (follows.size ▸ inside), edges,
      ← Opcode.edgesTo_mapTarget, short]

/-- Visiting a load to be observed leads, once the sequence behind it has been walked through, to the next
instruction with the depth that the load leaves. -/
theorem visit_load {depths depths' : Array (Option Nat)} (rest : List (Nat × Nat))
    (h : Method.Hooked sites method hooked) (follows : Follows sites method depths depths') {index depth after : Nat}
    (inside : index < depths.size) (unseen : depths[index] = none) {site : Site} (present : sites index = some site)
    (edges : hooked.edges signatures (relocate (hookLength sites) index) depth
      ((method.code[index]?.getD default).opcode.mapTarget (relocate (hookLength sites))) =
        .ok [(relocate (hookLength sites) index + 1, after + 1)]) :
    ∃ walked, Follows sites method (depths.set index (some depth)) walked ∧
      hooked.followEdges signatures depths' ((relocate (hookLength sites) index, depth) :: rest) =
        hooked.followEdges signatures walked ((relocate (hookLength sites) (index + 1), after + 1) :: rest) := by
  have fresh : depths[index]? = some none := by rw [Array.getElem?_eq_getElem inside, unseen]
  have there : depths'[relocate (hookLength sites) index]? = some none := by rw [follows.same, fresh]
  have long : relocate (hookLength sites) (index + 1) = relocate
      (hookLength sites) index + 1 + site.hookCode.length := by
    rw [relocate_succ, hookLength, present, Option.elim_some, Site.length_hookCode]
  have unseen' : ∀ offset < site.hookCode.length,
      (depths'.setIfInBounds (relocate (hookLength sites) index) (some depth))[relocate
        (hookLength sites) index + 1 + offset]? = some none := by
    intro offset within
    rw [Array.getElem?_setIfInBounds, if_neg (by omega)]
    exact follows.unseen index site present fresh offset within
  obtain ⟨walked, followed, _, kept⟩ := Method.followEdges_straight signatures rest
    (fun _ => Site.isStraight_hookCode)
    (h.called index site present) unseen' (site.depthAfter?_hookCode after)
  refine ⟨walked, follows.visit inside depth ?_ ?_, ?_⟩
  · rw [kept _ (Or.inl (Nat.lt_succ_self _)), Array.getElem?_setIfInBounds, if_pos rfl,
      if_pos (Array.getElem?_eq_some_iff.1 there).1]
  · intro place outside
    rw [kept place (by omega), Array.getElem?_setIfInBounds, if_neg (by omega)]
  · rw [Method.followEdges_unseen there, h.opcode_relocated (follows.size ▸ inside), edges, long]
    exact followed

/-- The hooked method is followed step by step with the method, except that the sequence behind a load is
walked through at once. -/
theorem followEdges (h : Method.Hooked sites method hooked) {depths depths' : Array (Option Nat)}
    {pending : List (Nat × Nat)} (follows : Follows sites method depths depths') :
    Agree (fun failure failure' => failure' = failure.moved (relocate (hookLength sites)))
      (fun final final' => ∀ index, final'[relocate (hookLength sites) index]? = final[index]?)
      (method.followEdges signatures depths pending)
      (hooked.followEdges signatures depths'
        (pending.map fun edge => (relocate (hookLength sites) edge.1, edge.2))) := by
  fun_induction Method.followEdges method signatures depths pending generalizing depths' with
  | case1 =>
    rw [List.map_nil, Method.followEdges]
    exact .ok follows.same
  | case2 depths index rest inside depth known ih =>
    have there : depths'[relocate (hookLength sites) index]? = some (some depth) := by
      rw [follows.same, Array.getElem?_eq_getElem inside, known]
    rw [List.map_cons, Method.followEdges_seen there, if_pos rfl]
    exact ih follows
  | case3 depths index depth rest inside first known other =>
    have there : depths'[relocate (hookLength sites) index]? = some (some first) := by
      rw [follows.same, Array.getElem?_eq_getElem inside, known]
    rw [List.map_cons, Method.followEdges_seen there, if_neg other, h.qualifiedName_eq]
    exact .error rfl
  | case4 depths index depth rest inside unseen failure failed =>
    have agreed := h.edges signatures index depth (method.code[index]?.getD default).opcode
    rw [failed] at agreed
    have there : depths'[relocate (hookLength sites) index]? = some none := by
      rw [follows.same, Array.getElem?_eq_getElem inside, unseen]
    rw [List.map_cons, Method.followEdges_unseen there, h.opcode_relocated (follows.size ▸ inside)]
    generalize hooked.edges signatures (relocate (hookLength sites) index) depth _ = result at agreed ⊢
    cases agreed with
    | error related => exact .error related
  | case5 depths index depth rest inside unseen next found _ ih =>
    have agreed := h.edges signatures index depth (method.code[index]?.getD default).opcode
    rw [found] at agreed
    generalize moved : hooked.edges signatures (relocate (hookLength sites) index) depth _ = result at agreed
    cases agreed with
    | ok related =>
      obtain ⟨after, rfl, rfl⟩ := related
      cases observed : sites index with
      | none =>
        obtain ⟨walked, onward, followed⟩ := h.visit_plain
          (rest.map fun edge => (relocate (hookLength sites) edge.1, edge.2)) follows inside unseen observed moved
        rw [List.map_cons, followed, ← List.map_append]
        exact ih onward
      | some site =>
        obtain ⟨_, instruction, fetched, observable⟩ := h.observable index site observed
        simp only [fetched, Option.getD_some] at found moved ih ⊢
        obtain ⟨pops, pushes, effect, _, same⟩ := Method.edges_ok found
        obtain ⟨taken, sizes⟩ := Opcode.effect?_of_isObservable observable
        rw [Method.effectAt_of_effect? sizes] at effect
        cases effect
        rw [Opcode.edgesTo_of_isObservable observable, Opcode.edgesTo_of_isObservable observable] at same
        cases same
        rw [Opcode.edgesTo_of_isObservable (Opcode.isObservable_mapTarget observable _)] at moved
        obtain ⟨walked, onward, followed⟩ := h.visit_load
          (rest.map fun edge => (relocate (hookLength sites) edge.1, edge.2)) follows inside unseen observed
          (by rw [fetched]; exact moved)
        rw [List.map_cons, followed, Opcode.edgesTo_of_isObservable observable]
        rw [Opcode.edgesTo_of_isObservable observable] at ih
        exact ih onward
  | case6 depths index depth rest past =>
    rw [List.map_cons, Method.followEdges_past, h.qualifiedName_eq]
    · exact .error rfl
    · rw [follows.same, Array.getElem?_eq_none (Nat.le_of_not_lt past)]

/-- The analysis of the hooked method is that of the method, with the instructions moved. -/
theorem stackDepths (h : Method.Hooked sites method hooked) (signatures : Signatures) :
    Agree (fun failure failure' => failure' = failure.moved (relocate (hookLength sites)))
      (fun depths depths' => ∀ index, depths'[relocate (hookLength sites) index]? = depths[index]?)
      (method.stackDepths signatures) (hooked.stackDepths signatures) := by
  have empty : hooked.code.isEmpty = method.code.isEmpty := by
    have sizes := h.size_le_relocate 0
    rw [relocate_zero, Nat.le_zero, Nat.le_zero] at sizes
    rw [Bool.eq_iff_iff, Array.isEmpty_iff_size_eq_zero, Array.isEmpty_iff_size_eq_zero, sizes]
  unfold Method.stackDepths
  rw [empty]
  split
  · exact .ok fun _ => rfl
  · refine h.followEdges ⟨Array.size_replicate, fun index => ?_, fun index site present _ offset within => ?_⟩
    · rw [Array.getElem?_replicate, Array.getElem?_replicate]
      have sizes := h.size_le_relocate index
      split <;> split <;> first | rfl | omega
    · rw [Array.getElem?_replicate, if_pos]
      have called := h.called index site present offset within
      rw [List.getElem?_eq_getElem within] at called
      obtain ⟨_, placed, _⟩ := Option.map_eq_some_iff.1 called
      exact (Array.getElem?_eq_some_iff.1 placed).1

end Method.Hooked

theorem relocate_eq_add_sum (length : Nat → Nat) (index : Nat) :
    relocate length index = index + ((List.range index).map length).sum := by
  induction index with
  | zero => rfl
  | succ index ih =>
    rw [relocate_succ, ih, List.range_succ, List.map_append, List.sum_append, List.map_singleton, List.sum_singleton]
    omega

/-- Where an instruction stands once its method has been instrumented: behind the sequences of all loads in
front of it. -/
def Method.placeInstrumented (method : Method) (fields : FieldTypes) (index : Nat) : Nat :=
  index + ((List.range index).map fun load => (method.loadType? fields load).elim 0 ValueType.hookLength).sum

/-- Where the numbering puts an instruction is where the rewriter puts it. -/
theorem Method.relocate_numbered {method : Method} {fields : FieldTypes} {next last : UInt32}
    {planned : List PlannedSite}
    (found : method.planSites fields method.code.toList.zipIdx next = (.ok planned, last)) :
    relocate (hookLength
      (Sites.numbered fields ((method.loads fields).map fun index => (method.member, index)) next method)) =
      method.placeInstrumented fields := by
  funext index
  rw [relocate_eq_add_sum, placeInstrumented]
  congr 3
  funext load
  rw [← numbered_type found, Option.elim_map]
  rfl

/-- What holds of each method and what its plan makes of it holds of all methods instrumented in order. -/
theorem instrumentMethods_forall₂ {fields : FieldTypes} {related : Method → Method → Prop}
    (planned : ∀ method plan next last, method.planSites fields method.code.toList.zipIdx next = (.ok plan, last) →
      related method (method.insertSequences plan)) {methods : List Method} {next : UInt32} {records : List Site}
    (found : (instrumentMethods fields methods next).sites = .ok records) :
    List.Forall₂ related methods (instrumentMethods fields methods next).methods := by
  induction methods generalizing next records with
  | nil => exact .nil
  | cons method rest ih =>
    obtain ⟨plan, last, listed, search, later, _, methods, _⟩ := instrumentMethods_ok found
    rw [methods]
    exact .cons (planned method plan next last search) (ih later)

/-- Instrumenting a module does not change what the stack analysis says of its methods, but for the places of
the instructions: where it finds depths it finds the same ones in the instrumented method, and an instruction
that control does not reach stays so; where it fails it fails in the same way. -/
theorem Module.instrument_stackDepths {module done : Module} {fields : FieldTypes} {first last : UInt32}
    {records : List Site} (rewriting : module.instrument fields first = (done, last, .ok records)) :
    List.Forall₂ (fun method method' => method'.body.isSome = method.body.isSome ∧ ∀ signatures,
        Agree (fun failure failure' => failure' = failure.moved (method.placeInstrumented fields))
          (fun depths depths' => ∀ index, depths'[method.placeInstrumented fields index]? = depths[index]?)
          (method.stackDepths signatures) (method'.stackDepths signatures))
      module.methods done.methods := by
  simp only [Module.instrument, Prod.mk.injEq] at rewriting
  obtain ⟨rfl, _, found⟩ := rewriting
  refine instrumentMethods_forall₂ (fun method plan next last search => ?_) found
  have hooked := Method.hooked_insertSequences search
  refine ⟨hooked.hasBody, fun signatures => ?_⟩
  rw [← Method.relocate_numbered search]
  exact hooked.stackDepths signatures

/-- A method that loads its argument and goes to `target` if it is true. -/
def testingMethod (name : String) (target : Nat) : Method :=
  { owner := "Loop", name, isStatic := true, params := [.int32], locals := [], returns := none, attributes := []
    body := some #[⟨.loadArg 0, some ⟨"loop", 1, 1, 1, 9⟩⟩, ⟨.jumpIfTrue target, none⟩, ⟨.return, none⟩] }

/-- A module with a method that loops and one that jumps out of its code. -/
def loopingModule : Module :=
  { name := "Loop", optimized := false, debugInfo := .full, metadata := .empty, classes := [], sites := []
    methods := [testingMethod "spin" 0, testingMethod "stray" 3] }

/-- A loop over an observed load, and a method that jumps out of its body. -/
theorem Module.instrument_stackDepths_looping : ∃ done last records spin stray depths,
    loopingModule.instrument (fun _ => none) 0 = (done, last, .ok records) ∧ done.methods = [spin, stray] ∧
    spin.stackDepths (fun _ => none) = .ok depths ∧ depths[0]? = some (some 0) ∧ depths[10]? = some (some 1) ∧
    depths[11]? = some (some 0) ∧ stray.stackDepths (fun _ => none) = .error (.badTarget "Loop::stray" 10 12) := by
  obtain ⟨done, last, records, rewriting⟩ : ∃ done last records,
      loopingModule.instrument (fun _ => none) 0 = (done, last, .ok records) := ⟨_, _, _, rfl⟩
  have spinning : (testingMethod "spin" 0).stackDepths (fun _ => none) = .ok #[some 0, some 1, some 0] := by cbv
  have straying : (testingMethod "stray" 3).stackDepths (fun _ => none) = .error
    (.badTarget "Loop::stray" 1 3) := by cbv
  have same : List.Forall₂ _ [testingMethod "spin" 0, testingMethod "stray" 3] done.methods :=
    Module.instrument_stackDepths rewriting
  generalize listed : done.methods = methods at same
  cases same with
  | @cons _ spin _ _ first others =>
    cases others with
    | @cons _ stray _ _ second none =>
      cases none
      have depths := first.2 fun _ => none
      have failure := second.2 fun _ => none
      rw [spinning] at depths
      rw [straying] at failure
      generalize result : spin.stackDepths (fun _ => none) = answer at depths
      generalize result' : stray.stackDepths (fun _ => none) = answer' at failure
      cases depths with
      | ok same =>
        cases failure with
        | error moved =>
          refine ⟨done, last, records, spin, stray, _, rewriting, listed, result, same 0, same 1, same 2, ?_⟩
          rw [result', moved]
          rfl

end Faultline
