import Faultline.Code.Binary
import Faultline.Proofs.Bytes
import Faultline.Proofs.Text.Utf8

namespace Faultline

/-! What a length of four bytes can tell. -/

def TextFits (s : String) : Prop := (textBytes s).length < 2 ^ 32

def ListFits {α : Type} (Fits : α → Prop) (items : List α) : Prop := items.length < 2 ^ 32 ∧ ∀ item ∈ items, Fits item

namespace Reader

variable {α β : Type} {item : Reader α} {next : α → Reader β} {raw raw' : Bytes} {x : α} {y : β}

theorem bind_apply {cursor after : Cursor} (read : item cursor = .ok (x, after)) :
    (item >>= next) cursor = next x after := by
  simp only [bind, StateT.bind, read, Except.bind]

/-- Two readers in sequence succeed exactly when the first does and the second does where it stopped. -/
theorem bind_eq_ok {cursor after : Cursor} :
    (item >>= next) cursor = .ok (y, after) ↔
      ∃ x between, item cursor = .ok (x, between) ∧ next x between = .ok (y, after) := by
  simp only [bind, StateT.bind, Except.bind]
  cases item cursor with
  | error failure => simp
  | ok read =>
    obtain ⟨x, between⟩ := read
    simp

theorem pure_eq_ok {cursor after : Cursor} {x' : α} :
    (pure x : Reader α) cursor = .ok (x', after) ↔ x = x' ∧ cursor = after := by
  have returned : (pure x : Reader α) cursor = .ok (x, cursor) := rfl
  rw [returned, Except.ok.injEq, Prod.mk.injEq]

/-- The reader takes just these bytes, whatever follows them, and gives this value. -/
def Reads (item : Reader α) (raw : Bytes) (x : α) : Prop :=
  ∀ offset rest, item ⟨offset, raw ++ rest⟩ = .ok (x, ⟨offset + raw.length, rest⟩)

namespace Reads

theorem unique {x' : α} (reads : item.Reads raw x) (reads' : item.Reads raw x') : x = x' := by
  have same := (reads 0 []).symm.trans (reads' 0 [])
  cases same
  rfl

theorem pure (x : α) : Reads (pure x) [] x := fun _ _ => rfl

theorem bind (reads : item.Reads raw x) (later : (next x).Reads raw' y) : Reads (item >>= next) (raw ++ raw') y := by
  intro offset rest
  rw [List.append_assoc, bind_apply (reads offset (raw' ++ rest)), later, List.length_append, Nat.add_assoc]

theorem result {f : α → β} (reads : item.Reads raw x) : Reads (item >>= fun x => Pure.pure (f x)) raw (f x) := by
  have whole : Reads (item >>= fun x => Pure.pure (f x)) (raw ++ []) (f x) := reads.bind (.pure (f x))
  rwa [List.append_nil] at whole

theorem gives {f : α → β} (reads : item.Reads raw x) (same : f x = y) :
    Reads (item >>= fun x => Pure.pure (f x)) raw y :=
  same ▸ reads.result

theorem map (f : α → β) (reads : item.Reads raw x) : Reads (f <$> item) raw (f x) := by
  rw [map_eq_pure_bind]
  exact reads.result

end Reads

/-! Numbers and texts. -/

theorem reads_bytes (raw : Bytes) : Reads (bytes raw.length) raw raw := by
  intro offset rest
  simp only [bytes, splitExactly_append]

theorem reads_nat (width : Nat) {n : Nat} (small : n < 256 ^ width) : Reads (nat width) (littleEndian width n) n := by
  have read := (reads_bytes (littleEndian width n)).map ofLittleEndian
  rwa [length_littleEndian, ofLittleEndian_littleEndian small] at read

theorem reads_byte (b : UInt8) : Reads byte [b] b := by
  have read := (reads_bytes [b]).map fun raw => UInt8.ofNat (ofLittleEndian raw)
  rw [show UInt8.ofNat (ofLittleEndian [b]) = b from UInt8.ofNat_toNat] at read
  exact read

theorem reads_length {n : Nat} (small : n < 2 ^ 32) : Reads length (encodeLength n) n :=
  reads_nat 4 small

theorem reads_bool (b : Bool) : Reads bool (encodeBool b) b := by
  cases b
  · exact (reads_byte 0).map (· != 0)
  · exact (reads_byte 1).map (· != 0)

theorem reads_text {s : String} (fits : TextFits s) : Reads text (encodeText s) s := by
  intro offset rest
  rw [encodeText, List.append_assoc, text, bind_apply (reads_length fits offset _),
    bind_apply (reads_bytes (textBytes s) _ rest), decodeUtf8_textBytes, List.length_append, Nat.add_assoc]
  rfl

theorem reads_tagged {branch : Nat → UInt8 → Reader α} {tag : UInt8}
    (reads : ∀ start, Reads (branch start tag) raw x) :
    Reads (offset >>= fun start => byte >>= branch start) (tag :: raw) x := by
  intro start rest
  exact ((reads_byte tag).bind (reads start)) start rest

/-! Lists and optional parts. -/

/-- As many items as the length says. -/
def list (item : Reader α) : Reader (List α) := length >>= replicate item

/-- As many items as the length says, each of a byte at least. -/
def counted (item : Reader α) : Reader (List α) := count >>= replicate item

section Lists

variable {γ : Type} {encode : γ → Bytes} {value : γ → α} {Fits : γ → Prop} {items : List γ}

theorem reads_replicate (reads : ∀ written ∈ items, item.Reads (encode written) (value written)) :
    Reads (replicate item items.length) (items.flatMap encode) (items.map value) := by
  induction items with
  | nil => exact .pure []
  | cons first rest ih =>
    have later := ih fun written member => reads written (List.mem_cons_of_mem _ member)
    exact (reads first (List.mem_cons_self ..)).bind later.result

theorem reads_list (fits : ListFits Fits items)
    (reads : ∀ written, Fits written → item.Reads (encode written) (value written)) :
    Reads (list item) (encodeList encode items) (items.map value) :=
  (reads_length fits.1).bind (reads_replicate fun written member => reads written (fits.2 written member))

theorem length_le_flatMap (nonempty : ∀ written, encode written ≠ []) (items : List γ) :
    items.length ≤ (items.flatMap encode).length := by
  induction items with
  | nil => exact Nat.le_refl 0
  | cons first rest ih =>
    have here := List.length_pos_iff.2 (nonempty first)
    rw [List.flatMap_cons, List.length_append, List.length_cons]
    omega

/-- The data is never shorter than the length that was written before its items. -/
theorem reads_counted (fits : ListFits Fits items)
    (reads : ∀ written, Fits written → item.Reads (encode written) (value written))
    (nonempty : ∀ written, encode written ≠ []) :
    Reads (counted item) (encodeList encode items) (items.map value) := by
  intro offset rest
  have here := reads_length fits.1 offset (items.flatMap encode ++ rest)
  rw [← List.append_assoc] at here
  have enough : ¬ (items.flatMap encode ++ rest).length < items.length := by
    have := length_le_flatMap nonempty items
    rw [List.length_append]
    omega
  have guarded : count ⟨offset, encodeList encode items ++ rest⟩ =
      .ok (items.length, ⟨offset + (encodeLength items.length).length, items.flatMap encode ++ rest⟩) := by
    simp only [count, encodeList, here, bind, Except.bind, if_neg enough, Pure.pure, Except.pure]
  have later := reads_replicate fun written member => reads written (fits.2 written member)
  rw [counted, bind_apply guarded, later, encodeList, List.length_append, Nat.add_assoc]

theorem reads_option {written : Option γ} (reads : ∀ present ∈ written, item.Reads (encode present) (value present)) :
    Reads (option item) (encodeOption encode written) (written.map value) := by
  cases written with
  | none => exact (reads_bool false).bind (.pure none)
  | some present => exact (reads_bool true).bind (reads present rfl).result

end Lists

end Reader

end Faultline
