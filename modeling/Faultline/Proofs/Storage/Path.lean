import Mathlib.Data.List.Basic
import Faultline.Storage.Path

namespace Faultline

theorem splitAt_ne_nil (separator : Char) (text : List Char) : splitAt separator text ≠ [] := by
  cases text with
  | nil => exact List.cons_ne_nil _ _
  | cons c rest =>
    unfold splitAt
    split
    · exact List.cons_ne_nil _ _
    · split <;> exact List.cons_ne_nil _ _

/-- A text with a separator in it splits at that place into the parts of both sides. -/
theorem splitAt_append (separator : Char) (front back : List Char) :
    splitAt separator (front ++ separator :: back) = splitAt separator front ++ splitAt separator back := by
  induction front with
  | nil =>
    obtain ⟨part, parts, shape⟩ := List.exists_cons_of_ne_nil (splitAt_ne_nil separator back)
    simp only [List.nil_append, splitAt, shape, if_true, List.cons_append]
  | cons c rest ih =>
    obtain ⟨part, parts, shape⟩ := List.exists_cons_of_ne_nil (splitAt_ne_nil separator rest)
    simp only [List.cons_append, splitAt, ih, shape]
    split <;> rfl

theorem splitAt_of_not_mem {separator : Char} {text : List Char} (whole : separator ∉ text) :
    splitAt separator text = [text] := by
  induction text with
  | nil => rfl
  | cons c rest ih =>
    obtain ⟨here, later⟩ := not_or.1 (mt List.mem_cons.2 whole)
    simp only [splitAt, ih later, if_neg (Ne.symm here)]

/-- No part contains the separator. -/
theorem not_mem_of_mem_splitAt {separator : Char} {text part : List Char} (member : part ∈ splitAt separator text) :
    separator ∉ part := by
  induction text generalizing part with
  | nil =>
    rw [splitAt, List.mem_singleton] at member
    rw [member]
    exact List.not_mem_nil
  | cons c rest ih =>
    obtain ⟨first, others, shape⟩ := List.exists_cons_of_ne_nil (splitAt_ne_nil separator rest)
    rw [shape] at ih
    simp only [splitAt, shape] at member
    split at member
    · obtain rfl | later := List.mem_cons.1 member
      · exact List.not_mem_nil
      · exact ih later
    · rename_i other
      obtain rfl | later := List.mem_cons.1 member
      · exact List.not_mem_cons_of_ne_of_not_mem (Ne.symm other) (ih List.mem_cons_self)
      · exact ih (List.mem_cons_of_mem _ later)

/-- What follows a text without a separator only makes its last part longer. -/
theorem getLast?_splitAt_append {separator c : Char} (other : c ≠ separator) (front : List Char) :
    (splitAt separator (front ++ [c])).getLast? ≠ some [] := by
  induction front with
  | nil =>
    rw [List.nil_append, splitAt_of_not_mem (by simpa using Ne.symm other), List.getLast?_singleton]
    simp
  | cons first rest ih =>
    obtain ⟨part, parts, shape⟩ := List.exists_cons_of_ne_nil (splitAt_ne_nil separator (rest ++ [c]))
    rw [shape] at ih
    simp only [List.cons_append, splitAt, shape]
    split
    · rwa [List.getLast?_cons_cons]
    · cases parts with
      | nil => simp
      | cons next others =>
        rw [List.getLast?_cons_cons] at ih ⊢
        exact ih

namespace Path

/-- What names a file or a folder within the one above it. -/
structure IsName (name : String) : Prop where
  nonempty : name ≠ ""
  leads : name ≠ "." ∧ name ≠ ".."
  single : '/' ∉ name.toList

/-- The steps but for the one that a slash at the end stands for. -/
def names (path : Path) : List String := path.parts.filter (· != "")

theorem steps_eq (path : Path) : path.steps = path.names ++ if path.text.endsWith "/" then ["."] else [] := rfl

theorem isAbsolute_iff {path : Path} : path.isAbsolute = true ↔ ['/'] <+: path.text.toList := by
  rw [isAbsolute, String.startsWith_string_iff, show ("/" : String).toList = ['/'] from rfl]

theorem endsWith_iff {text : String} : text.endsWith "/" = true ↔ ['/'] <:+ text.toList := by
  rw [String.endsWith, String.Slice.endsWith_string_iff, String.copy_toSlice,
    show ("/" : String).toList = ['/'] from rfl]

theorem not_isAbsolute {name : String} (isName : IsName name) : isAbsolute ⟨name⟩ = false := by
  rw [Bool.eq_false_iff, Ne, isAbsolute_iff]
  exact fun starts => isName.single (starts.subset (List.mem_singleton_self _))

theorem parts_name {name : String} (isName : IsName name) : parts ⟨name⟩ = [name] := by
  rw [parts, splitAt_of_not_mem isName.single, List.map_singleton, String.ofList_toList]

theorem not_endsWith {name : String} (isName : IsName name) (front : String) :
    (front ++ name).endsWith "/" = false := by
  rw [Bool.eq_false_iff, Ne, endsWith_iff, String.toList_append]
  rintro ⟨before, same⟩
  have characters : name.toList ≠ [] := fun none => isName.nonempty (String.toList_inj.1 none)
  have last := congrArg List.getLast? same
  rw [List.getLast?_append, List.getLast?_append_of_ne_nil _ characters, List.getLast?_singleton,
    Option.some_or] at last
  exact isName.single (List.mem_of_getLast? last.symm)

theorem parts_slash (front back : String) : parts ⟨front ++ "/" ++ back⟩ = parts ⟨front⟩ ++ parts ⟨back⟩ := by
  have characters : (front ++ "/" ++ back).toList = front.toList ++ '/' :: back.toList := by
    simp only [String.toList_append, show ("/" : String).toList = ['/'] from rfl, List.append_assoc,
      List.singleton_append]
  rw [parts, parts, parts, characters, splitAt_append, List.map_append]

/-- The text of a path that is continued by a name. -/
theorem join_name (base : Path) {name : String} (isName : IsName name) :
    (base.text = "" ∧ base.join ⟨name⟩ = ⟨name⟩) ∨
      (∃ front, base.text = front ++ "/" ∧ base.join ⟨name⟩ = ⟨front ++ "/" ++ name⟩) ∨
      (base.text ≠ "" ∧ base.join ⟨name⟩ = ⟨base.text ++ "/" ++ name⟩) := by
  unfold join
  rw [not_isAbsolute isName, Bool.false_or]
  by_cases empty : base.text = ""
  · exact Or.inl ⟨empty, by rw [if_pos (decide_eq_true empty)]⟩
  · rw [if_neg (by rwa [decide_eq_true_eq])]
    split
    · rename_i closed
      rw [endsWith_iff] at closed
      obtain ⟨front, whole⟩ := closed
      have same : base.text = String.ofList front ++ "/" := by
        rw [← String.toList_inj, String.toList_append, String.toList_ofList, ← whole]
        rfl
      exact Or.inr (Or.inl ⟨_, same, by rw [same]⟩)
    · exact Or.inr (Or.inr ⟨empty, rfl⟩)

theorem names_name {name : String} (isName : IsName name) : names ⟨name⟩ = [name] := by
  rw [names, parts_name isName]
  simp [isName.nonempty]

theorem names_slash (front : String) {name : String} (isName : IsName name) :
    names ⟨front ++ "/" ++ name⟩ = names ⟨front⟩ ++ [name] := by
  rw [names, parts_slash, parts_name isName, List.filter_append, names]
  congr 1
  simp [isName.nonempty]

/-- A name joined to a path is its last name. -/
theorem names_join (base : Path) {name : String} (isName : IsName name) :
    (base.join ⟨name⟩).names = base.names ++ [name] := by
  rcases base.join_name isName with ⟨empty, same⟩ | ⟨front, closed, same⟩ | ⟨-, same⟩
  · have none : base.names = [] := by
      rw [names, parts, empty]
      decide
    rw [same, names_name isName, none, List.nil_append]
  · have base_names : base.names = names ⟨front⟩ := by
      have shape := parts_slash front ""
      rw [String.append_empty] at shape
      rw [names, show base = ⟨front ++ "/"⟩ from congrArg Path.mk closed, shape, List.filter_append, names]
      simp [parts, splitAt]
    rw [same, names_slash front isName, base_names]
  · rw [same, names_slash base.text isName]

/-- A name joined to a path is its last step. -/
theorem steps_join (base : Path) {name : String} (isName : IsName name) :
    (base.join ⟨name⟩).steps = base.names ++ [name] := by
  have open_ : (base.join ⟨name⟩).text.endsWith "/" = false := by
    rcases base.join_name isName with ⟨-, same⟩ | ⟨front, -, same⟩ | ⟨-, same⟩ <;> rw [same]
    · have := not_endsWith isName ""
      rwa [String.empty_append] at this
    · exact not_endsWith isName _
    · exact not_endsWith isName _
  rw [steps_eq, open_, names_join base isName]
  exact List.append_nil _

/-- A path joined to a name starts where the path did. -/
theorem isAbsolute_join (base : Path) {name : String} (isName : IsName name) :
    (base.join ⟨name⟩).isAbsolute = base.isAbsolute := by
  have grown (front : String) (nonempty : front.toList ≠ []) (back : String) :
      isAbsolute ⟨front ++ back⟩ = isAbsolute ⟨front⟩ := by
    obtain ⟨c, rest, shape⟩ := List.exists_cons_of_ne_nil nonempty
    rw [Bool.eq_iff_iff, isAbsolute_iff, isAbsolute_iff, String.toList_append, shape]
    simp
  rcases base.join_name isName with ⟨empty, same⟩ | ⟨front, closed, same⟩ | ⟨nonempty, same⟩
  · rw [same, not_isAbsolute isName, isAbsolute, empty]
    decide
  · rw [same, grown _ (by simp) name, show base = ⟨front ++ "/"⟩ from congrArg Path.mk closed]
  · rw [same, String.append_assoc, grown _ fun none => nonempty (String.toList_inj.1 none)]

/-! The parts of a path. -/


variable {path : Path} {front parts : List String} {last : String}

theorem parts_ne_nil (path : Path) : path.parts ≠ [] := by
  rw [Path.parts, Ne, List.map_eq_nil_iff]
  exact splitAt_ne_nil _ _

theorem not_mem_of_mem_parts {part : String} (member : part ∈ path.parts) : '/' ∉ part.toList := by
  obtain ⟨characters, divided, rfl⟩ := List.mem_map.1 member
  rw [String.toList_ofList]
  exact not_mem_of_mem_splitAt divided

/-- Parts without a slash, put together with slashes, split into the same parts. -/
theorem parts_intercalate (whole : ∀ part ∈ parts, '/' ∉ part.toList) (nonempty : parts ≠ []) :
    Path.parts ⟨"/".intercalate parts⟩ = parts := by
  induction parts with
  | nil => exact absurd rfl nonempty
  | cons part rest ih =>
    have single : Path.parts ⟨part⟩ = [part] := by
      rw [Path.parts, splitAt_of_not_mem (whole part List.mem_cons_self), List.map_singleton, String.ofList_toList]
    cases rest with
    | nil => rw [String.intercalate_singleton, single]
    | cons next others =>
      have later := ih (fun part member => whole part (List.mem_cons_of_mem _ member)) (List.cons_ne_nil _ _)
      rw [String.intercalate_cons_cons, parts_slash, single, later]
      rfl

/-- A path ends in a slash, or it is empty, where its last part is. -/
theorem getLast?_parts : path.parts.getLast? = some "" ↔ path.text = "" ∨ path.text.endsWith "/" = true := by
  constructor
  · intro idle
    rw [Path.parts, List.getLast?_map, Option.map_eq_some_iff] at idle
    obtain ⟨characters, idle, none⟩ := idle
    rw [← String.ofList_nil, String.ofList_inj] at none
    subst none
    rw [endsWith_iff]
    obtain empty | ⟨before, c, whole⟩ := List.eq_nil_or_concat path.text.toList
    · exact Or.inl (String.toList_inj.1 empty)
    · by_cases slash : c = '/'
      · exact Or.inr ⟨before, by rw [whole, slash]; simp⟩
      · rw [whole, List.concat_eq_append] at idle
        exact absurd idle (getLast?_splitAt_append slash before)
  · rintro (empty | closed)
    · rw [Path.parts, empty]
      rfl
    · rw [endsWith_iff] at closed
      obtain ⟨before, whole⟩ := closed
      have same : path = ⟨String.ofList before ++ "/" ++ ""⟩ := by
        obtain ⟨text⟩ := path
        rw [String.append_empty, Path.mk.injEq, ← String.toList_inj, String.toList_append,
          String.toList_ofList, ← whole]
        rfl
      rw [same, parts_slash, List.getLast?_append_of_ne_nil _ (parts_ne_nil _)]
      rfl

/-- The steps of a path are its parts but the empty ones. -/
theorem steps_of_parts (split : path.parts = front ++ [last]) (proper : last ≠ "") :
    path.steps = front.filter (· != "") ++ [last] := by
  have opened : path.text.endsWith "/" = false := by
    rw [Bool.eq_false_iff]
    intro closed
    have idle := getLast?_parts.2 (Or.inr closed)
    rw [split, List.getLast?_concat, Option.some.injEq] at idle
    exact proper idle
  rw [steps_eq, opened, names, split, List.filter_append]
  simp [proper]

/-- A path is absolute when its first part is empty and not its only one. -/
theorem isAbsolute_iff_parts : path.isAbsolute = true ↔ ∃ part rest, path.parts = "" :: part :: rest := by
  rw [isAbsolute_iff, Path.parts]
  cases path.text.toList with
  | nil => simp [splitAt]
  | cons c rest =>
    obtain ⟨part, parts, shape⟩ := List.exists_cons_of_ne_nil (splitAt_ne_nil '/' rest)
    simp only [splitAt, shape, List.cons_prefix_cons]
    split
    · rename_i slash
      simp [slash]
    · rename_i other
      simp [Ne.symm other]

/-! The folder of a path. -/

theorem dropIdle_concat (front : List String) (proper : last ≠ "" ∧ last ≠ ".") :
    dropIdle (front ++ [last]) = front ++ [last] := by
  rw [dropIdle, List.reverse_concat, List.dropWhile_cons_of_neg, List.reverse_cons, List.reverse_reverse]
  simpa using proper

theorem dropIdle_begins (parts : List String) : dropIdle parts <+: parts := by
  rw [dropIdle, ← List.reverse_suffix, List.reverse_reverse]
  exact List.dropWhile_suffix _

theorem getLast?_dropIdle (parts : List String) : (dropIdle parts).getLast? ≠ some "" := by
  rw [dropIdle, List.getLast?_reverse]
  intro idle
  have kept := List.head?_dropWhile_not (fun part : String => part = "" || part = ".") parts.reverse
  rw [idle] at kept
  simp at kept

theorem parts_above {above : List String} (split : path.parts = front ++ [last]) (begins : above <+: front)
    (nonempty : above ≠ []) :
    Path.parts ⟨"/".intercalate above⟩ = above := by
  refine parts_intercalate (fun part member => ?_) nonempty
  have listed : part ∈ path.parts := by
    rw [split]
    exact List.mem_append_left _ (begins.subset member)
  exact not_mem_of_mem_parts listed

theorem parent?_of_splitLead {lead : Option String} (shape : path.splitLead = (lead, parts ++ [last]))
    (proper : last ≠ "" ∧ last ≠ ".") : path.parent? = some (ofLead lead (dropIdle parts)) := by
  obtain ⟨first, rest, whole⟩ :=
    List.exists_cons_of_ne_nil (List.append_ne_nil_of_right_ne_nil parts (List.cons_ne_nil last []))
  simp only [parent?, shape, dropIdle_concat parts proper]
  rw [whole]
  simp only
  rw [← whole, List.dropLast_concat]

/-- The lead of a path is its root or its dot, whatever the rest. -/
theorem splitLead_concat (split : path.parts = front ++ [last]) (proper : last ≠ "" ∧ last ≠ ".") :
    (∃ above, front = "" :: above ∧ path.splitLead = (some "", above ++ [last])) ∨
      (∃ above, front = "." :: above ∧ path.splitLead = (some ".", above ++ [last])) ∨
      path.isAbsolute = false ∧ path.splitLead = (none, front ++ [last]) := by
  have relative (other : ¬ ∃ part rest, front ++ [last] = "" :: part :: rest) : path.isAbsolute = false := by
    rwa [Bool.eq_false_iff, Ne, isAbsolute_iff_parts, split]
  rw [splitLead, split]
  cases front with
  | nil => exact Or.inr (Or.inr ⟨relative (by simp), by simp [proper]⟩)
  | cons first above =>
    by_cases top : first = ""
    · obtain ⟨part, rest, whole⟩ :=
        List.exists_cons_of_ne_nil (List.append_ne_nil_of_right_ne_nil above (List.cons_ne_nil last []))
      refine Or.inl ⟨above, by rw [top], ?_⟩
      rw [top, List.cons_append, whole]
      rfl
    · by_cases here : first = "."
      · exact Or.inr (Or.inl ⟨above, by rw [here], by rw [here]; rfl⟩)
      · exact Or.inr (Or.inr ⟨relative (by simp [top]), by simp [top, here]⟩)

/-- The folder of a path is its parent, or the working folder where the parent is empty. -/
theorem folder_of_parent? {parent : Path} (here : path.parent? = some parent) :
    path.folder = if parent.text = "" then ⟨"."⟩ else parent := by
  obtain ⟨text⟩ := parent
  rw [folder, here]
  split
  · contradiction
  · rename_i same
    cases same
    rfl
  · rename_i other same
    cases same
    exact (if_neg fun empty => other (congrArg Path.mk empty)).symm

/-- The folder is the top, or the working folder, or its parts are those that the path begins with. -/
theorem folder_cases (split : path.parts = front ++ [last]) (proper : last ≠ "" ∧ last ≠ ".") :
    path.folder = ⟨"/"⟩ ∧ path.isAbsolute = true ∨ path.folder = ⟨"."⟩ ∧ path.isAbsolute = false ∨
      ∃ above, path.folder = ⟨"/".intercalate above⟩ ∧ above ≠ [] ∧ above.getLast? ≠ some "" ∧ above <+: front := by
  have above (above : List String) (nonempty : above ≠ []) (closed : above.getLast? ≠ some "")
      (begins : above <+: front) (here : path.parent? = some ⟨"/".intercalate above⟩) :
      ∃ above, path.folder = ⟨"/".intercalate above⟩ ∧ above ≠ [] ∧ above.getLast? ≠ some "" ∧ above <+: front := by
    refine ⟨above, ?_, nonempty, closed, begins⟩
    rw [folder_of_parent? here, if_neg]
    intro empty
    have parts := parts_above split begins nonempty
    rw [show Path.mk ("/".intercalate above) = ⟨""⟩ from congrArg Path.mk empty] at parts
    rw [← parts] at closed
    exact closed (by decide)
  obtain ⟨front, rfl, shape⟩ | ⟨front, rfl, shape⟩ | ⟨relative, shape⟩ := splitLead_concat split proper <;>
    have here := parent?_of_splitLead shape proper
  · have absolute : path.isAbsolute = true := by
      rw [isAbsolute_iff_parts, split]
      cases front <;> simp
    cases body : dropIdle front with
    | nil =>
      rw [body] at here
      refine Or.inl ⟨?_, absolute⟩
      rw [folder_of_parent? here]
      decide
    | cons first rest =>
      have closed := getLast?_dropIdle front
      have begins := dropIdle_begins front
      rw [body] at here closed begins
      refine Or.inr
        (Or.inr (above ("" :: first :: rest) (List.cons_ne_nil _ _) ?_ (List.cons_prefix_cons.2 ⟨rfl, begins⟩) here))
      rwa [List.getLast?_cons_cons]
  · refine Or.inr
      (Or.inr (above ("." :: dropIdle front) (List.cons_ne_nil _ _) ?_
        (List.cons_prefix_cons.2 ⟨rfl, dropIdle_begins front⟩) here))
    have closed := getLast?_dropIdle front
    cases body : dropIdle front with
    | nil => decide
    | cons first rest =>
      rw [body] at closed
      rwa [List.getLast?_cons_cons]
  · by_cases body : dropIdle front = []
    · rw [body] at here
      refine Or.inr (Or.inl ⟨?_, relative⟩)
      rw [folder_of_parent? here]
      rfl
    · exact Or.inr (Or.inr (above _ body (getLast?_dropIdle front) (dropIdle_begins front) here))

/-- The folder of a path lies where all names but the last lead to. -/
theorem folder_spec (split : path.parts = front ++ [last]) (proper : last ≠ "" ∧ last ≠ ".") :
    path.folder.isAbsolute = path.isAbsolute ∧
      (path.folder.steps = ["."] ∨ path.folder.steps <+: front.filter (· != "")) := by
  obtain ⟨here, absolute⟩ | ⟨here, relative⟩ | ⟨above, here, nonempty, closed, begins⟩ := folder_cases split proper
  · rw [here, absolute]
    exact ⟨by with_unfolding_all decide, Or.inl (by with_unfolding_all decide)⟩
  · rw [here, relative]
    exact ⟨by with_unfolding_all decide, Or.inl (by with_unfolding_all decide)⟩
  rw [here]
  have parts := parts_above split begins nonempty
  obtain rfl | ⟨others, end_, rfl⟩ := List.eq_nil_or_concat' above
  · exact absurd rfl nonempty
  rw [List.getLast?_concat, Ne, Option.some.injEq] at closed
  refine ⟨?_, Or.inr ?_⟩
  · rw [Bool.eq_iff_iff, isAbsolute_iff_parts, isAbsolute_iff_parts, parts, split]
    obtain ⟨behind, rfl⟩ := begins
    cases others with
    | nil => simp [closed]
    | cons first others => cases others <;> simp
  · rw [steps_of_parts parts closed]
    have kept := begins.filter (· != "")
    rwa [List.filter_append, List.filter_cons_of_pos (by simpa using closed), List.filter_nil] at kept

end Path

end Faultline
