import Mathlib.Data.List.DropRight
import Mathlib.Data.List.TakeDrop
import Faultline.Text.JsonReader

namespace Faultline

namespace Json

/-- A value all of whose numbers are integers. -/
inductive Integral : Json → Prop
  | null : Integral .null
  | bool (b : Bool) : Integral (.bool b)
  | integer (n : Int) : Integral (.integer n)
  | string (s : String) : Integral (.string s)
  | array {items : List Json} (all : ∀ item ∈ items, Integral item) : Integral (.array items)
  | object {members : List (String × Json)} (all : ∀ member ∈ members, Integral member.2) : Integral (.object members)

/-! Texts. -/

/-- A unit is read the same whatever follows its digits. -/
theorem readUnit_append {digits rest : List Char} {unit : Nat} (read : readUnit digits = some (unit, [])) :
    readUnit (digits ++ rest) = some (unit, rest) := by
  unfold readUnit at read
  split at read
  · rename_i a b c d last
    simp only [Option.bind_eq_bind, Option.bind_eq_some_iff, Option.pure_def, Option.some.injEq,
      Prod.mk.injEq] at read
    obtain ⟨va, ra, vb, rb, vc, rc, vd, rd, same, rfl⟩ := read
    simp only [List.cons_append, List.nil_append, readUnit, ra, rb, rc, rd, ← same]
    rfl
  · cases read


theorem readUnit_control (n : Nat) (control : n < 32) :
    readUnit (if n < 16 then '0' :: '0' :: '0' :: (hexDigits n).toList else '0' :: '0' :: (hexDigits n).toList) =
      some (n, []) := by
  revert n
  decide

theorem readEscapedUnit_control {n : Nat} (control : n < 32) (rest : List Char) :
    readEscapedUnit
      ((if n < 16 then '0' :: '0' :: '0' :: (hexDigits n).toList else '0' :: '0' :: (hexDigits n).toList) ++ rest) =
      some (.ofNat n, rest) := by
  have low : isHighSurrogate n = false ∧ isLowSurrogate n = false := by
    simp only [isHighSurrogate, isLowSurrogate, Bool.and_eq_false_iff, decide_eq_false_iff_not]
    omega
  simp only [readEscapedUnit, readUnit_append (readUnit_control n control), low, Option.bind_eq_bind,
    Option.bind_some, Bool.false_eq_true, if_false, Option.pure_def]

/-- An escaped character is read as the character. -/
theorem readString_escape (fuel : Nat) (before : List Char) (c : Char) (rest : List Char) :
    readString (fuel + 1) before ((escapeChar c).toList ++ rest) = readString fuel (c :: before) rest := by
  have named {n : Nat} (same : c.toNat = n) : Char.ofNat n = c := same ▸ Char.ofNat_toNat c
  unfold escapeChar
  split_ifs with quote slash line cr tab back feed low control
  · subst quote; rfl
  · subst slash; rfl
  · subst line; rfl
  · subst cr; rfl
  · subst tab; rfl
  · rw [← named back]; rfl
  · rw [← named feed]; rfl
  · have read := readEscapedUnit_control (n := c.toNat) (by omega) rest
    rw [if_pos low, named rfl] at read
    simp only [String.toList_append, show ("\\u000" : String).toList = ['\\', 'u', '0', '0', '0'] from rfl,
      List.cons_append, List.nil_append, readString, readEscape] at read ⊢
    rw [read]
    rfl
  · have read := readEscapedUnit_control (n := c.toNat) control rest
    rw [if_neg low, named rfl] at read
    simp only [String.toList_append, show ("\\u00" : String).toList = ['\\', 'u', '0', '0'] from rfl,
      List.cons_append, List.nil_append, readString, readEscape] at read ⊢
    rw [read]
    rfl
  · rw [show c.toString.toList = [c] from by simp [Char.toString], List.singleton_append]
    rw [readString]
    · exact if_neg control
    · exact quote
    · exact slash

/-- A quoted string is read back, up to the closing quote. -/
theorem readString_quoted (s rest before : List Char) {fuel : Nat} (enough : s.length < fuel) :
    readString fuel before (s.flatMap (fun c => (escapeChar c).toList) ++ '"' :: rest) =
      some (.ofList (before.reverse ++ s), rest) := by
  induction s generalizing fuel before with
  | nil =>
    obtain ⟨fuel, rfl⟩ := Nat.exists_eq_add_one_of_ne_zero (Nat.ne_of_gt enough)
    rw [List.append_nil]
    rfl
  | cons c s ih =>
    obtain ⟨fuel, rfl⟩ := Nat.exists_eq_add_one_of_ne_zero (Nat.ne_of_gt (Nat.zero_lt_of_lt enough))
    rw [List.length_cons, Nat.add_lt_add_iff_right] at enough
    rw [List.flatMap_cons, List.append_assoc, readString_escape, ih _ enough, List.reverse_cons, List.append_assoc]
    rfl

theorem toList_quote (s : String) :
    (quote s).toList = '"' :: (s.toList.flatMap (fun c => (escapeChar c).toList) ++ ['"']) := by
  simp only [quote, String.toList_append, String.toList_join, List.flatMap_map]
  rfl

/-- Escaping makes a text no shorter: the fuel of the reader suffices. -/
theorem length_le_escaped (s : List Char) : s.length ≤ (s.flatMap fun c => (escapeChar c).toList).length := by
  induction s with
  | nil => exact Nat.le_refl 0
  | cons c s ih =>
    have here : 0 < (escapeChar c).toList.length := by
      unfold escapeChar
      split_ifs <;> simp [Char.toString]
    rw [List.flatMap_cons, List.length_append, List.length_cons]
    omega

/-- A quoted text is read back, with enough fuel for what is left of the whole text. -/
theorem readString_quote (s : String) (rest : List Char) :
    ∃ inner, (quote s).toList ++ rest = '"' :: inner ∧ readString (inner.length + 1) [] inner = some (s, rest) := by
  refine ⟨s.toList.flatMap (fun c => (escapeChar c).toList) ++ '"' :: rest, by rw [toList_quote]; simp, ?_⟩
  have shorter := length_le_escaped s.toList
  rw [readString_quoted, List.reverse_nil, List.nil_append, String.ofList_toList]
  rw [List.length_append]
  omega

/-! Numbers. -/

/-- What may follow a number: no digit, no fraction and no exponent. -/
def Stops (rest : List Char) : Prop := ∀ c ∈ rest.head?, isDigit c = false ∧ c ≠ '.' ∧ c ≠ 'e' ∧ c ≠ 'E'

theorem isDigit_toDigits {n : Nat} {c : Char} (member : c ∈ Nat.toDigits 10 n) : isDigit c = true := by
  have digit := Nat.isDigit_of_mem_toDigits (by decide) (by decide) member
  simpa [isDigit, Char.isDigit, Char.le_def] using digit

/-- Only zero is written with a leading zero. -/
theorem eq_zero_of_head_toDigits {n : Nat} (zero : (Nat.toDigits 10 n).head? = some '0') : n = 0 := by
  induction n using Nat.strongRecOn with
  | _ n ih =>
    by_cases small : n < 10
    · rw [Nat.toDigits_of_lt_base small] at zero
      have digits : ∀ n < 10, [n.digitChar].head? = some '0' → n = 0 := by decide
      exact digits n small zero
    · rw [Nat.toDigits_of_base_le (by decide) (Nat.not_lt.1 small),
        List.head?_append_of_ne_nil _ Nat.toDigits_ne_nil] at zero
      have := ih (n / 10) (by omega) zero
      omega

theorem decimalValue_toDigits (n : Nat) : decimalValue (Nat.toDigits 10 n) = n := by
  have value := Nat.ofDigitChars_ten_toDigits (n := n)
  simpa only [decimalValue, digitValue, Nat.ofDigitChars_eq_foldl, Nat.mul_comm] using value

/-- Digits are read up to the first character that is none. -/
theorem readDigits_append {digits rest : List Char} (nonempty : digits ≠ []) (all : ∀ c ∈ digits, isDigit c = true)
    (stops : ∀ c ∈ rest.head?, isDigit c = false) : readDigits (digits ++ rest) = some (digits, rest) := by
  have taken : (digits ++ rest).span isDigit = (digits, rest) := by
    rw [List.span_eq_takeWhile_dropWhile, List.takeWhile_append_of_pos all, List.dropWhile_append_of_pos all]
    cases rest with
    | nil => simp
    | cons c rest =>
      have := stops c rfl
      simp [this]
  obtain ⟨first, others, rfl⟩ := List.exists_cons_of_ne_nil nonempty
  rw [readDigits, taken]

/-- A number is read back from its decimal digits. -/
theorem readNumber_toDigits (negative : Bool) {n : Nat} (proper : negative = true → n ≠ 0) {rest : List Char}
    (stops : Stops rest) :
    readNumber negative (Nat.toDigits 10 n ++ rest) = some (.integer (if negative then -n else n), rest) := by
  have leading : ¬ ((Nat.toDigits 10 n).head? = some '0' ∧ (Nat.toDigits 10 n).length ≠ 1) := by
    rintro ⟨zero, more⟩
    obtain rfl := eq_zero_of_head_toDigits zero
    exact more rfl
  have fraction : readFraction rest = some ([], rest) := by
    unfold readFraction
    split
    · exact absurd rfl (stops '.' rfl).2.1
    · rfl
  have exponent : readExponent rest = some ([], rest) := by
    cases rest with
    | nil => rfl
    | cons c rest =>
      obtain ⟨-, -, e, E⟩ := stops c rfl
      simp [readExponent, e, E]
  rw [readNumber, readDigits_append Nat.toDigits_ne_nil (fun _ => isDigit_toDigits) fun c member =>
    (stops c member).1]
  simpa [leading, fraction, exponent, decimalValue_toDigits] using proper

/-! Blanks. -/

theorem skipBlank_cons {c : Char} (solid : c ≠ ' ' ∧ c ≠ '\n' ∧ c ≠ '\t' ∧ c ≠ '\r') (rest : List Char) :
    skipBlank (c :: rest) = c :: rest := by
  simp [skipBlank, solid]

/-- A line break and its indentation are skipped. -/
theorem skipBlank_newline (level : Nat) (rest : List Char) :
    skipBlank ((newline level).toList ++ rest) = skipBlank rest := by
  have blanks : ∀ c ∈ (newline level).toList, (c = ' ' || c = '\n' || c = '\t' || c = '\r') = true := by
    intro c member
    rw [newline, String.toList_append, List.mem_append] at member
    rcases member with line | indent
    · obtain rfl := List.mem_singleton.1 (show c ∈ ['\n'] from line)
      rfl
    · rw [String.toList_ofList] at indent
      obtain rfl := List.eq_of_mem_replicate indent
      rfl
  exact List.dropWhile_append_of_pos blanks

theorem skipBlank_skipBlank (s : List Char) : skipBlank (skipBlank s) = skipBlank s :=
  List.dropWhile_idempotent _ _

theorem readValue_skipBlank (fuel : Nat) (s : List Char) : readValue fuel (skipBlank s) = readValue fuel s := by
  cases fuel with
  | zero => rfl
  | succ fuel => rw [readValue, readValue, skipBlank_skipBlank]

theorem readMembers_skipBlank (fuel : Nat) (s : List Char) : readMembers fuel (skipBlank s) = readMembers fuel s := by
  cases fuel with
  | zero => rfl
  | succ fuel => rw [readMembers, readMembers, skipBlank_skipBlank]

theorem stops_newline (level : Nat) (rest : List Char) : Stops ((newline level).toList ++ rest) := by
  intro c first
  rw [newline, String.toList_append] at first
  obtain rfl := Option.mem_some.1 (show c ∈ some '\n' from first)
  decide

theorem stops_comma (rest : List Char) : Stops (',' :: rest) := by
  intro c first
  obtain rfl := Option.mem_some.1 first
  decide

/-! Values. -/

/-- A value that starts with a digit is a number. -/
theorem readValue_number {fuel : Nat} {c : Char} (digit : isDigit c = true) (rest : List Char) :
    readValue (fuel + 1) (c :: rest) = readNumber false (c :: rest) := by
  have other (d : Char) (letter : isDigit d = false) : c ≠ d := fun same => by
    rw [same, letter] at digit
    cases digit
  rw [readValue, skipBlank_cons ⟨other _ rfl, other _ rfl, other _ rfl, other _ rfl⟩]
  split
  all_goals first
    | rfl
    | rename_i same; exact absurd (List.cons.inj same).1 (other _ rfl)

/-- A value is read from the start of what it is written as, with fuel enough for the length. -/
def Reads (json : Json) : Prop :=
  ∀ (level : Nat) (rest : List Char) (fuel : Nat), Stops rest → 2 * (renderAt level json).toList.length + 1 ≤ fuel →
    readValue fuel ((renderAt level json).toList ++ rest) = some (json, rest)

/-- Every integer is read back from its text. -/
theorem reads_integer (n : Int) : Reads (.integer n) := by
  intro level rest fuel stops enough
  obtain ⟨fuel, rfl⟩ := Nat.exists_eq_add_of_le' (Nat.le_trans (Nat.le_add_left ..) enough)
  cases n with
  | ofNat n =>
    obtain ⟨c, digits, shape⟩ := List.exists_cons_of_ne_nil (Nat.toDigits_ne_nil (n := n) (b := 10))
    have digit : isDigit c = true := isDigit_toDigits (shape ▸ List.mem_cons_self ..)
    have read := readNumber_toDigits false (n := n) (fun impossible => by cases impossible) stops
    have text : (renderAt level (.integer (.ofNat n))).toList = Nat.toDigits 10 n := Nat.toList_repr
    rw [text, shape, List.cons_append, readValue_number digit]
    rw [shape, List.cons_append] at read
    exact read
  | negSucc n =>
    have read := readNumber_toDigits true (n := n + 1) (fun _ => Nat.succ_ne_zero n) stops
    have text : (renderAt level (.integer (.negSucc n))).toList = '-' :: Nat.toDigits 10 (n + 1) := by
      rw [← Nat.toList_repr]
      exact String.toList_append
    rw [text]
    exact read

theorem reads_string (s : String) : Reads (.string s) := by
  intro level rest fuel stops enough
  obtain ⟨fuel, rfl⟩ := Nat.exists_eq_add_of_le' (Nat.le_trans (Nat.le_add_left ..) enough)
  obtain ⟨inner, shape, read⟩ := readString_quote s rest
  rw [renderAt, shape, readValue, skipBlank_cons (by decide)]
  simp only [read, Option.map_some]

/-- How a value's text starts: with nothing that is blank or closes a list. -/
theorem renderAt_start {json : Json} (integral : Integral json) (level : Nat) :
    ∃ c rest, (renderAt level json).toList = c :: rest ∧ (c ≠ ' ' ∧ c ≠ '\n' ∧ c ≠ '\t' ∧ c ≠ '\r') ∧ c ≠ ']' := by
  cases integral with
  | null => exact ⟨'n', ['u', 'l', 'l'], by rw [renderAt]; rfl, by decide, by decide⟩
  | bool b =>
    cases b with
    | false => exact ⟨'f', ['a', 'l', 's', 'e'], by rw [renderAt]; rfl, by decide, by decide⟩
    | true => exact ⟨'t', ['r', 'u', 'e'], by rw [renderAt]; rfl, by decide, by decide⟩
  | integer n =>
    cases n with
    | ofNat n =>
      obtain ⟨c, digits, shape⟩ := List.exists_cons_of_ne_nil (Nat.toDigits_ne_nil (n := n) (b := 10))
      have digit : isDigit c = true := isDigit_toDigits (shape ▸ List.mem_cons_self ..)
      have other (d : Char) (letter : isDigit d = false) : c ≠ d := fun same => by
        rw [same, letter] at digit
        cases digit
      exact ⟨c, digits, Nat.toList_repr.trans shape, ⟨other _ rfl, other _ rfl, other _ rfl, other _ rfl⟩,
        other _ rfl⟩
    | negSucc n => exact ⟨'-', _, String.toList_append, by decide, by decide⟩
  | string s => exact ⟨'"', _, toList_quote s, by decide, by decide⟩
  | @array items all =>
    cases items with
    | nil => exact ⟨'[', [']'], by rw [renderAt]; rfl, by decide, by decide⟩
    | cons item rest =>
      exact ⟨'[', _, by simp only [renderAt, String.append_assoc]; exact String.toList_append, by decide, by decide⟩
  | @object members all =>
    cases members with
    | nil => exact ⟨'\x7b', ['\x7d'], by rw [renderAt]; rfl, by decide, by decide⟩
    | cons member rest =>
      exact ⟨'\x7b', _, by simp only [renderAt, String.append_assoc]; exact String.toList_append,
        by decide, by decide⟩

/-- Items in lines of their own up to the closing bracket, which stands a level further out. -/
def itemsText (level outer : Nat) (item : Json) (others : List Json) : List Char :=
  (newline level).toList ++ ((renderAt level item).toList ++ ((renderItems level others).toList ++
    ((newline outer).toList ++ [']'])))

/-- The items of an array are read back, by induction over the list. -/
theorem readItems_itemsText {item : Json} {others : List Json} (reads : ∀ each ∈ item :: others, Reads each)
    (level outer : Nat) (rest : List Char) (fuel : Nat)
    (enough : 2 * (itemsText level outer item others).length ≤ fuel) :
    readItems fuel (itemsText level outer item others ++ rest) = some (item :: others, rest) := by
  induction others generalizing item fuel with
  | nil =>
    simp only [itemsText, List.length_append, List.length_singleton] at enough
    obtain ⟨fuel, rfl⟩ := Nat.exists_eq_add_of_le' (show 1 ≤ fuel by omega)
    have here := reads item (List.mem_cons_self ..) level ((newline outer).toList ++ ']' :: rest) fuel
      (stops_newline _ _) (by omega)
    have closed : skipBlank ((newline outer).toList ++ ']' :: rest) = ']' :: rest := by
      rw [skipBlank_newline, skipBlank_cons (by decide)]
    rw [readItems, itemsText, List.append_assoc, ← readValue_skipBlank, skipBlank_newline, readValue_skipBlank]
    simp [renderItems, here, closed]
  | cons next others ih =>
    have later : (renderItems level (next :: others)).toList ++ ((newline outer).toList ++ [']']) =
        ',' :: itemsText level outer next others := by
      simp [renderItems, itemsText]
    rw [itemsText, later] at enough ⊢
    simp only [List.length_append, List.length_cons] at enough
    obtain ⟨fuel, rfl⟩ := Nat.exists_eq_add_of_le' (show 1 ≤ fuel by omega)
    have here := reads item (List.mem_cons_self ..) level (',' :: (itemsText level outer next others ++ rest)) fuel
      (stops_comma _) (by omega)
    have comma : skipBlank (',' :: (itemsText level outer next others ++ rest)) =
        ',' :: (itemsText level outer next others ++ rest) := skipBlank_cons (by decide) _
    have others := ih (fun each member => reads each (List.mem_cons_of_mem _ member)) fuel (by omega)
    rw [readItems, List.append_assoc, ← readValue_skipBlank, skipBlank_newline, readValue_skipBlank]
    simp [here, comma, others]

/-- Blanks before a value do not count. -/
theorem readValue_spaced {json : Json} (reads : Reads json) (level : Nat) {rest : List Char} (stops : Stops rest)
    (fuel : Nat) (enough : 2 * (renderAt level json).toList.length + 1 ≤ fuel) :
    readValue fuel (' ' :: ((renderAt level json).toList ++ rest)) = some (json, rest) := by
  rw [← readValue_skipBlank]
  have blank : skipBlank (' ' :: ((renderAt level json).toList ++ rest)) = skipBlank
    ((renderAt level json).toList ++ rest) := rfl
  rw [blank, readValue_skipBlank, reads level rest fuel stops enough]

/-- Members in lines of their own up to the closing brace, which stands a level further out. -/
def membersText (level outer : Nat) (member : String × Json) (others : List (String × Json)) : List Char :=
  (newline level).toList ++ ((quote member.1).toList ++ (':' :: ' ' :: ((renderAt level member.2).toList ++
    ((renderMembers level others).toList ++ ((newline outer).toList ++ ['\x7d'])))))

/-- The members of an object are read back, by induction over the list. -/
theorem readMembers_membersText {member : String × Json} {others : List (String × Json)}
    (reads : ∀ each ∈ member :: others, Reads each.2) (level outer : Nat) (rest : List Char) (fuel : Nat)
    (enough : 2 * (membersText level outer member others).length ≤ fuel) :
    readMembers fuel (membersText level outer member others ++ rest) = some (member :: others, rest) := by
  induction others generalizing member fuel with
  | nil =>
    simp only [membersText, List.length_append, List.length_cons, List.length_nil] at enough
    obtain ⟨fuel, rfl⟩ := Nat.exists_eq_add_of_le' (show 1 ≤ fuel by omega)
    have here := readValue_spaced (reads member (List.mem_cons_self ..)) level
      (stops_newline outer ('\x7d' :: rest)) fuel (by omega)
    have closed : skipBlank ((newline outer).toList ++ '\x7d' :: rest) = '\x7d' :: rest := by
      rw [skipBlank_newline, skipBlank_cons (by decide)]
    obtain ⟨inner, shape, name⟩ := readString_quote member.1
      (':' :: ' ' :: ((renderAt level member.2).toList ++ ((newline outer).toList ++ '\x7d' :: rest)))
    rw [← readMembers_skipBlank, membersText, List.append_assoc, skipBlank_newline, readMembers_skipBlank]
    simp only [renderMembers, List.append_assoc, List.cons_append, shape, String.toList_empty, List.nil_append]
    rw [readMembers, skipBlank_cons (by decide)]
    simp [name, skipBlank_cons, here, closed]
  | cons next others ih =>
    have later : (renderMembers level (next :: others)).toList ++ ((newline outer).toList ++ ['\x7d']) =
        ',' :: membersText level outer next others := by
      obtain ⟨name, value⟩ := next
      simp [renderMembers, renderMember, membersText]
    rw [membersText, later] at enough ⊢
    simp only [List.length_append, List.length_cons] at enough
    obtain ⟨fuel, rfl⟩ := Nat.exists_eq_add_of_le' (show 1 ≤ fuel by omega)
    have here := readValue_spaced (reads member (List.mem_cons_self ..)) level
      (stops_comma (membersText level outer next others ++ rest)) fuel (by omega)
    have comma : skipBlank (',' :: (membersText level outer next others ++ rest)) =
        ',' :: (membersText level outer next others ++ rest) := skipBlank_cons (by decide) _
    have remaining := ih (fun each member => reads each (List.mem_cons_of_mem _ member)) fuel (by omega)
    obtain ⟨inner, shape, name⟩ := readString_quote member.1
      (':' :: ' ' :: ((renderAt level member.2).toList ++ (',' :: (membersText level outer next others ++ rest))))
    rw [← readMembers_skipBlank, List.append_assoc, skipBlank_newline, readMembers_skipBlank]
    simp only [List.append_assoc, List.cons_append, shape]
    rw [readMembers, skipBlank_cons (by decide)]
    simp [name, skipBlank_cons, here, comma, remaining]

/-- An array is read back when its items are. -/
theorem reads_array {items : List Json} (integral : ∀ item ∈ items, Integral item)
    (reads : ∀ item ∈ items, Reads item) :
    Reads (.array items) := by
  intro level rest fuel stops enough
  cases items with
  | nil =>
    obtain ⟨fuel, rfl⟩ := Nat.exists_eq_add_of_le' (Nat.le_trans (Nat.le_add_left ..) enough)
    rw [renderAt]
    rfl
  | cons item others =>
    have text : (renderAt level (.array (item :: others))).toList = '[' :: itemsText
        (level + 1) level item others := by
      simp [renderAt, itemsText]
    rw [text] at enough ⊢
    rw [List.length_cons] at enough
    obtain ⟨fuel, rfl⟩ := Nat.exists_eq_add_of_le' (show 1 ≤ fuel by omega)
    have inner := readItems_itemsText reads (level + 1) level rest fuel (by omega)
    obtain ⟨c, after, start, solid, unclosed⟩ := renderAt_start (integral item (List.mem_cons_self ..)) (level + 1)
    have proceeds : ∃ after, skipBlank (itemsText (level + 1) level item others ++ rest) = c :: after := by
      rw [itemsText, List.append_assoc, skipBlank_newline, start]
      exact ⟨_, skipBlank_cons solid _⟩
    obtain ⟨after, proceeds⟩ := proceeds
    rw [List.cons_append, readValue, skipBlank_cons (by decide)]
    simp [proceeds, unclosed, inner]

/-- An object is read back when the values of its members are. -/
theorem reads_object {members : List (String × Json)} (reads : ∀ member ∈ members, Reads member.2) :
    Reads (.object members) := by
  intro level rest fuel stops enough
  cases members with
  | nil =>
    obtain ⟨fuel, rfl⟩ := Nat.exists_eq_add_of_le' (Nat.le_trans (Nat.le_add_left ..) enough)
    rw [renderAt]
    rfl
  | cons member others =>
    have text : (renderAt level (.object (member :: others))).toList =
        '\x7b' :: membersText (level + 1) level member others := by
      obtain ⟨name, value⟩ := member
      simp [renderAt, renderMember, membersText]
    rw [text] at enough ⊢
    rw [List.length_cons] at enough
    obtain ⟨fuel, rfl⟩ := Nat.exists_eq_add_of_le' (show 1 ≤ fuel by omega)
    have inner := readMembers_membersText reads (level + 1) level rest fuel (by omega)
    have proceeds : ∃ after, skipBlank (membersText (level + 1) level member others ++ rest) = '"' :: after := by
      rw [membersText, List.append_assoc, skipBlank_newline, toList_quote]
      exact ⟨_, skipBlank_cons (by decide) _⟩
    obtain ⟨after, proceeds⟩ := proceeds
    rw [List.cons_append, readValue, skipBlank_cons (by decide)]
    simp [proceeds, inner]

/-- A value whose numbers are all integers is read back from its text. -/
theorem Integral.reads {json : Json} (integral : Integral json) : Reads json := by
  induction integral with
  | null =>
    intro level rest fuel stops enough
    obtain ⟨fuel, rfl⟩ := Nat.exists_eq_add_of_le' (Nat.le_trans (Nat.le_add_left ..) enough)
    rw [renderAt]
    rfl
  | bool b =>
    intro level rest fuel stops enough
    obtain ⟨fuel, rfl⟩ := Nat.exists_eq_add_of_le' (Nat.le_trans (Nat.le_add_left ..) enough)
    rw [renderAt]
    cases b <;> rfl
  | integer n => exact reads_integer n
  | string s => exact reads_string s
  | array all ih => exact reads_array all ih
  | object all ih => exact reads_object ih

/-- What a value is written as is read as the value. -/
theorem parse?_render {json : Json} (integral : Integral json) : parse? json.render = some json := by
  have nothing : Stops [] := fun c first => by cases first
  have read := integral.reads 0 [] _ nothing (Nat.le_refl _)
  rw [List.append_nil] at read
  simp only [parse?, render, read, Option.bind_eq_bind, Option.bind_some]
  rfl

end Json

end Faultline
