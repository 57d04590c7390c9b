import Faultline.Proofs.Code.RoundTrip

namespace Faultline

/-- Whether the operand is a byte that says yes or no. -/
def Opcode.hasFlag : Opcode → Bool
  | loadBool _ => true
  | _ => false

namespace Reader

variable {α β : Type} {item : Reader α} {encode : α → Bytes} {Fits : α → Prop} {cursor after : Cursor}

/-- What is read is a value that fits, and its encoding. -/
def Exact (item : Reader α) (encode : α → Bytes) (Fits : α → Prop) : Prop :=
  ∀ ⦃cursor after x⦄, item cursor = .ok (x, after) → Fits x ∧ cursor.rest = encode x ++ after.rest

/-- A mapped reader succeeds where the reader does, with the value mapped. -/
theorem map_eq_ok {f : α → β} {y : β} :
    (f <$> item) cursor = .ok (y, after) ↔ ∃ x, item cursor = .ok (x, after) ∧ f x = y := by
  rw [map_eq_pure_bind, bind_eq_ok]
  simp only [pure_eq_ok]
  constructor
  · rintro ⟨x, between, read, rfl, rfl⟩
    exact ⟨x, read, rfl⟩
  · rintro ⟨x, read, rfl⟩
    exact ⟨x, after, read, rfl, rfl⟩

theorem bytes_eq_ok {n : Nat} {raw : Bytes} (read : bytes n cursor = .ok (raw, after)) :
    raw.length = n ∧ cursor.rest = raw ++ after.rest := by
  unfold bytes at read
  split at read
  · rename_i front back split
    cases read
    exact (splitExactly_eq_some split).symm
  · cases read

theorem exact_nat (width : Nat) : Exact (nat width) (littleEndian width) (· < 256 ^ width) := by
  intro cursor after n read
  obtain ⟨raw, taken, rfl⟩ := map_eq_ok.1 read
  obtain ⟨rfl, split⟩ := bytes_eq_ok taken
  exact ⟨ofLittleEndian_lt raw, by rw [littleEndian_ofLittleEndian, split]⟩

theorem exact_byte : Exact byte (fun b => [b]) fun _ => True := by
  intro cursor after b read
  obtain ⟨n, number, rfl⟩ := map_eq_ok.1 read
  exact ⟨trivial, (exact_nat 1 number).2⟩

theorem exact_length : Exact length encodeLength (· < 2 ^ 32) := exact_nat 4

/-- A count that is accepted is the length that was written. -/
theorem count_eq_ok {n : Nat} (read : count cursor = .ok (n, after)) :
    length cursor = .ok (n, after) := by
  unfold count at read
  cases size : length cursor with
  | error failure =>
    rw [size] at read
    cases read
  | ok result =>
    simp only [size, bind, Except.bind] at read
    split at read
    · cases read
    · cases read
      rfl

/-- A text that was read is written back as the bytes it was read from. -/
theorem exact_text : Exact text encodeText TextFits := by
  intro cursor after s read
  obtain ⟨n, between, size, later⟩ := bind_eq_ok.1 read
  obtain ⟨raw, between', taken, decoding⟩ := bind_eq_ok.1 later
  obtain ⟨small, split⟩ := exact_length size
  obtain ⟨rfl, split'⟩ := bytes_eq_ok taken
  cases decoded : decodeUtf8 raw with
  | error fault =>
    rw [decoded] at decoding
    cases decoding
  | ok s' =>
    rw [decoded] at decoding
    obtain ⟨rfl, rfl⟩ := pure_eq_ok.1 decoding
    obtain rfl := textBytes_of_decodeUtf8 decoded
    refine ⟨small, ?_⟩
    rw [split, split', encodeText, List.append_assoc]

/-- Items read in a row are written back one after the other. -/
theorem exact_replicate (exact : Exact item encode Fits) (n : Nat) :
    Exact (replicate item n) (·.flatMap encode) fun items => items.length = n ∧ ∀ x ∈ items, Fits x := by
  induction n with
  | zero =>
    intro cursor after items read
    obtain ⟨rfl, rfl⟩ := pure_eq_ok.1 read
    exact ⟨⟨rfl, fun _ member => absurd member List.not_mem_nil⟩, rfl⟩
  | succ n ih =>
    intro cursor after items read
    obtain ⟨first, between, readFirst, later⟩ := bind_eq_ok.1 read
    obtain ⟨rest, between', readRest, done⟩ := bind_eq_ok.1 later
    obtain ⟨rfl, rfl⟩ := pure_eq_ok.1 done
    obtain ⟨fits, split⟩ := exact readFirst
    obtain ⟨⟨rfl, allFit⟩, split'⟩ := ih readRest
    refine ⟨⟨rfl, List.forall_mem_cons.2 ⟨fits, allFit⟩⟩, ?_⟩
    rw [split, split']
    exact (List.append_assoc ..).symm

theorem exact_list (exact : Exact item encode Fits) : Exact (list item) (encodeList encode) (ListFits Fits) := by
  intro cursor after items read
  obtain ⟨n, between, size, later⟩ := bind_eq_ok.1 read
  obtain ⟨small, split⟩ := exact_length size
  obtain ⟨⟨rfl, allFit⟩, split'⟩ := exact_replicate exact n later
  refine ⟨⟨small, allFit⟩, ?_⟩
  rw [split, split', encodeList, List.append_assoc]

theorem tagged_eq_ok {branch : Nat → UInt8 → Reader α} {x : α}
    (read : (offset >>= fun start => byte >>= branch start) cursor = .ok (x, after)) :
    ∃ tag between, cursor.rest = tag :: between.rest ∧ branch cursor.offset tag between = .ok (x, after) := by
  obtain ⟨start, cursor', started, later⟩ := bind_eq_ok.1 read
  obtain ⟨tag, between, tagged, branched⟩ := bind_eq_ok.1 later
  cases started
  exact ⟨tag, between, (exact_byte tagged).2, branched⟩

/-- A type is written back as it was read: its tags have one spelling each. -/
theorem exact_valueType : Exact valueType ValueType.encode ValueType.Fits := by
  intro cursor after type read
  obtain ⟨tag, between, split, branched⟩ := tagged_eq_ok read
  rw [split]
  split at branched
  case h_7 =>
    obtain ⟨className, between', readName, done⟩ := bind_eq_ok.1 branched
    obtain ⟨rfl, rfl⟩ := pure_eq_ok.1 done
    obtain ⟨fits, split'⟩ := exact_text readName
    exact ⟨fits, by rw [split']; rfl⟩
  case h_8 => cases branched
  all_goals
    obtain ⟨rfl, rfl⟩ := pure_eq_ok.1 branched
    exact ⟨trivial, rfl⟩

/-- What is made of two texts. -/
theorem exact_texts {make : String → String → α}
    (written : ∀ s t, TextFits s → TextFits t → Fits (make s t) ∧ encode (make s t) = encodeText s ++ encodeText t) :
    Exact (do return make (← text) (← text)) encode Fits := by
  intro cursor after made read
  obtain ⟨s, between, first, later⟩ := bind_eq_ok.1 read
  obtain ⟨t, between', second, done⟩ := bind_eq_ok.1 later
  obtain ⟨rfl, rfl⟩ := pure_eq_ok.1 done
  obtain ⟨fits, split⟩ := exact_text first
  obtain ⟨fits', split'⟩ := exact_text second
  obtain ⟨whole, same⟩ := written s t fits fits'
  exact ⟨whole, by rw [split, split', same, List.append_assoc]⟩

theorem exact_member : Exact member Member.encode Member.Fits :=
  exact_texts fun _ _ fits fits' => ⟨⟨fits, fits'⟩, rfl⟩

theorem exact_slot : Exact slot encodeSlot fun _ => True := by
  intro cursor after n read
  obtain ⟨raw, number, rfl⟩ := map_eq_ok.1 read
  obtain ⟨small, split⟩ := exact_nat 2 number
  refine ⟨trivial, ?_⟩
  rw [encodeSlot, UInt16.toNat_ofNat_of_lt' small, split]

/-- A character is written back as the four bytes of its scalar value. -/
theorem exact_char : Exact char (fun c => littleEndian 4 c.toNat) fun _ => True := by
  intro cursor after c read
  obtain ⟨code, between, number, checked⟩ := bind_eq_ok.1 read
  split at checked
  · rename_i valid
    obtain ⟨rfl, rfl⟩ := pure_eq_ok.1 checked
    refine ⟨trivial, ?_⟩
    rw [(exact_nat 4 number).2, Char.ofNat, dif_pos valid]
    rfl
  · cases checked

theorem encode_loadInt32 {n : Nat} (small : n < 256 ^ 4) :
    (Opcode.loadInt32 (UInt32.ofNat n).toInt32).encode = 2 :: littleEndian 4 n := by
  rw [Opcode.encode, UInt32.toUInt32_toInt32, UInt32.toNat_ofNat_of_lt' small]

theorem encode_loadInt64 {n : Nat} (small : n < 256 ^ 8) :
    (Opcode.loadInt64 (UInt64.ofNat n).toInt64).encode = 3 :: littleEndian 8 n := by
  rw [Opcode.encode, UInt64.toUInt64_toInt64, UInt64.toNat_ofNat_of_lt' small]

theorem encode_loadFloat64 {n : Nat} (small : n < 256 ^ 8) :
    (Opcode.loadFloat64 ⟨UInt64.ofNat n⟩).encode = 4 :: littleEndian 8 n := by
  rw [Opcode.encode, UInt64.toNat_ofNat_of_lt' small]

/-- An instruction with one operand is exact when its operand is and it holds no flag. -/
theorem operand_eq_ok {make : α → Opcode} {tag : UInt8} {operation : Opcode}
    (read : (item >>= fun x => pure (make x)) cursor = .ok (operation, after)) (exact : Exact item encode Fits)
    (unflagged : ∀ x, (make x).hasFlag = false)
    (written : ∀ x, Fits x → (make x).Fits ∧ (make x).encode = tag :: encode x) :
    operation.hasFlag = false ∧ operation.Fits ∧ tag :: cursor.rest = operation.encode ++ after.rest := by
  obtain ⟨x, between, operand, done⟩ := bind_eq_ok.1 read
  obtain ⟨rfl, rfl⟩ := pure_eq_ok.1 done
  obtain ⟨small, split⟩ := exact operand
  obtain ⟨fits, same⟩ := written x small
  exact ⟨unflagged x, fits, by rw [split, same, List.cons_append]⟩

theorem bool_eq_ok {b : Bool} (read : bool cursor = .ok (b, after)) :
    ∃ flag, byte cursor = .ok (flag, after) ∧ (flag != 0) = b ∧ cursor.rest = flag :: after.rest := by
  obtain ⟨flag, taken, rfl⟩ := map_eq_ok.1 read
  exact ⟨flag, taken, rfl, (exact_byte taken).2⟩

/-- An opcode is read from its encoding, but for a flag, of which any byte will do. -/
theorem opcode_eq_ok {operation : Opcode} (read : opcode cursor = .ok (operation, after)) :
    (∃ flag, operation = .loadBool (flag != 0) ∧ cursor.rest = 5 :: flag :: after.rest) ∨
      operation.hasFlag = false ∧ operation.Fits ∧ cursor.rest = operation.encode ++ after.rest := by
  obtain ⟨tag, between, split, branched⟩ := tagged_eq_ok read
  rw [split]
  -- The case `h_k` is that of the tag `k - 1`.
  split at branched
  case h_3 =>
    exact Or.inr (operand_eq_ok branched (exact_nat 4) (fun _ => rfl) fun _ small =>
      ⟨trivial, encode_loadInt32 small⟩)
  case h_4 =>
    exact Or.inr (operand_eq_ok branched (exact_nat 8) (fun _ => rfl) fun _ small =>
      ⟨trivial, encode_loadInt64 small⟩)
  case h_5 =>
    exact Or.inr (operand_eq_ok branched (exact_nat 8) (fun _ => rfl) fun _ small =>
      ⟨trivial, encode_loadFloat64 small⟩)
  case h_6 =>
    obtain ⟨b, between', operand, done⟩ := bind_eq_ok.1 branched
    obtain ⟨rfl, rfl⟩ := pure_eq_ok.1 done
    obtain ⟨flag, -, rfl, split'⟩ := bool_eq_ok operand
    exact Or.inl ⟨flag, rfl, by rw [split']⟩
  case h_7 => exact Or.inr (operand_eq_ok branched exact_char (fun _ => rfl) fun _ _ => ⟨trivial, rfl⟩)
  case h_8 | h_49 => exact Or.inr (operand_eq_ok branched exact_text (fun _ => rfl) fun _ fits => ⟨fits, rfl⟩)
  case h_9 | h_10 | h_11 | h_12 | h_13 | h_14 =>
    exact Or.inr (operand_eq_ok branched exact_slot (fun _ => rfl) fun _ _ => ⟨trivial, rfl⟩)
  case h_15 | h_16 | h_17 | h_18 | h_19 | h_20 | h_29 | h_30 | h_48 =>
    exact Or.inr (operand_eq_ok branched exact_member (fun _ => rfl) fun _ fits => ⟨fits, rfl⟩)
  case h_21 | h_23 | h_24 | h_25 | h_26 | h_27 | h_28 | h_50 | h_51 | h_52 =>
    exact Or.inr (operand_eq_ok branched exact_valueType (fun _ => rfl) fun _ fits => ⟨fits, rfl⟩)
  case h_43 | h_44 | h_45 =>
    exact Or.inr (operand_eq_ok branched exact_length (fun _ => rfl) fun _ fits => ⟨fits, rfl⟩)
  case h_53 => cases branched
  all_goals
    obtain ⟨rfl, rfl⟩ := pure_eq_ok.1 branched
    exact Or.inr ⟨rfl, trivial, rfl⟩

/-- The debug information has one byte per case, written back as read. -/
theorem exact_debugInfo : Exact debugInfo DebugInfo.encode fun _ => True := by
  intro cursor after written read
  obtain ⟨tag, between, split, branched⟩ := tagged_eq_ok read
  rw [split]
  split at branched
  case h_4 => cases branched
  all_goals
    obtain ⟨rfl, rfl⟩ := pure_eq_ok.1 branched
    exact ⟨trivial, rfl⟩

theorem exact_entry : Exact entry encodeEntry fun entry => TextFits entry.1 ∧ TextFits entry.2 :=
  exact_texts fun _ _ fits fits' => ⟨⟨fits, fits'⟩, rfl⟩

end Reader

end Faultline
