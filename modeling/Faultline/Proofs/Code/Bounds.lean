import Faultline.Proofs.Code.Composition
import Faultline.Proofs.Code.Extent

namespace Faultline

/-! Where failures point to. -/

/-- What a failure says of data that begins at the offset is true: the place where bytes are wanted is not
past its end, and the unknown tag stands where it is said to. -/
inductive DecodeError.TrueOf (offset : Nat) (data : Bytes) : DecodeError → Prop
  | truncated {place : Nat} (within : place ≤ offset + data.length) : TrueOf offset data (.truncated place)
  | unknown {failure : DecodeError} {tag : UInt8} {front back : Bytes} (split : data = front ++ tag :: back)
      (names : failure.Unknown tag (offset + front.length)) : TrueOf offset data failure
  | invalidText (fault : Utf8Error) : TrueOf offset data (.invalidText fault)
  | invalidChar (code : Nat) : TrueOf offset data (.invalidChar code)

/-- What a failure says of the bytes left at a place it says of all the bytes. -/
theorem DecodeError.TrueOf.append {failure : DecodeError} {offset : Nat} {front data : Bytes}
    (sound : failure.TrueOf (offset + front.length) data) : failure.TrueOf offset (front ++ data) := by
  cases sound with
  | truncated within =>
    refine .truncated ?_
    rw [List.length_append]
    omega
  | @unknown _ tag between back split names =>
    refine .unknown (by rw [split, List.append_assoc]) ?_
    rwa [List.length_append, ← Nat.add_assoc]
  | invalidText fault => exact .invalidText fault
  | invalidChar code => exact .invalidChar code

namespace Reader

variable {α β : Type} {item : Reader α} {next : α → Reader β} {cursor : Cursor} {failure : DecodeError}

/-- The reader knows where it is: it moves on by just the bytes that it takes, and its failure is true of the data. -/
structure TruthfulAt (item : Reader α) (cursor : Cursor) : Prop where
  moves : ∀ ⦃x after⦄, item cursor = .ok (x, after) →
    ∃ raw, cursor.rest = raw ++ after.rest ∧ after.offset = cursor.offset + raw.length
  tells : ∀ ⦃failure⦄, item cursor = .error failure → failure.TrueOf cursor.offset cursor.rest

def Truthful (item : Reader α) : Prop := ∀ cursor, item.TruthfulAt cursor

theorem bind_eq_error : (item >>= next) cursor = .error failure ↔
    item cursor = .error failure ∨ ∃ x between, item cursor = .ok (x, between) ∧ next x between = .error failure := by
  simp only [Bind.bind, StateT.bind, Except.bind]
  cases item cursor with
  | error failure => simp
  | ok read =>
    obtain ⟨x, between⟩ := read
    simp

/-- A sequence of readers is truthful when the first is and every continuation is where the first stops. -/
theorem TruthfulAt.bind (first : item.TruthfulAt cursor)
    (later : ∀ x between, item cursor = .ok (x, between) → (next x).TruthfulAt between) :
    (item >>= next).TruthfulAt cursor := by
  refine ⟨fun y after read => ?_, fun failure failed => ?_⟩
  · obtain ⟨x, between, here, there⟩ := bind_eq_ok.1 read
    obtain ⟨raw, split, moved⟩ := first.moves here
    obtain ⟨raw', split', moved'⟩ := (later x between here).moves there
    refine ⟨raw ++ raw', by rw [split, split', List.append_assoc], ?_⟩
    rw [moved', moved, List.length_append, Nat.add_assoc]
  · obtain here | ⟨x, between, here, there⟩ := bind_eq_error.1 failed
    · exact first.tells here
    · obtain ⟨raw, split, moved⟩ := first.moves here
      have sound := (later x between here).tells there
      rw [moved] at sound
      rw [split]
      exact sound.append

namespace Truthful

theorem pure (x : α) : Truthful (Pure.pure x) := by
  refine fun cursor => ⟨fun x' after read => ?_, fun failure failed => ?_⟩
  · obtain ⟨-, rfl⟩ := pure_eq_ok.1 read
    exact ⟨[], rfl, rfl⟩
  · cases failed

theorem fail (harmless : ∀ offset data, failure.TrueOf offset data) : Truthful (Reader.fail failure : Reader α) := by
  refine fun cursor => ⟨fun x after read => ?_, fun _ failed => ?_⟩
  · cases read
  · cases failed
    exact harmless _ _

theorem bind (first : Truthful item) (later : ∀ x, Truthful (next x)) : Truthful (item >>= next) :=
  fun cursor => (first cursor).bind fun x between _ => later x between

theorem map {f : α → β} (truthful : Truthful item) : Truthful (f <$> item) := by
  rw [map_eq_pure_bind]
  exact truthful.bind fun _ => .pure _

end Truthful

/-- The only failure of a run of bytes is that they end too soon. -/
theorem truthful_bytes (n : Nat) : Truthful (bytes n) := by
  refine fun cursor => ⟨fun raw after read => ?_, fun failure failed => ?_⟩
  · unfold bytes at read
    split at read
    · rename_i front back split
      cases read
      obtain ⟨whole, taken⟩ := splitExactly_eq_some split
      exact ⟨raw, whole, by rw [taken]⟩
    · cases read
  · unfold bytes at failed
    split at failed
    · cases failed
    · cases failed
      exact .truncated (Nat.le_add_right _ _)

theorem le_of_count {n : Nat} {after : Cursor} (read : count cursor = .ok (n, after)) : n ≤ after.rest.length := by
  by_contra more
  simp only [count, count_eq_ok read, Bind.bind, Except.bind, if_pos (Nat.lt_of_not_le more)] at read
  cases read

/-- A length that is past the end of the data is refused where it stands. -/
theorem truthful_count : Truthful count := by
  have length : Truthful length := .map (truthful_bytes 4)
  refine fun cursor => ⟨fun n after read => (length cursor).moves (count_eq_ok read), fun failure failed => ?_⟩
  unfold count at failed
  cases size : Reader.length cursor with
  | error fault =>
    rw [size] at failed
    cases failed
    exact (length cursor).tells size
  | ok result =>
    simp only [size, Bind.bind, Except.bind] at failed
    split at failed
    · cases failed
      exact .truncated (Nat.le_add_right _ _)
    · cases failed

/-- A tag that is unknown is reported as the byte that was read for it, and with the place of that byte. -/
theorem Truthful.tagged {branch : Nat → UInt8 → Reader α} (branches : ∀ start tag, Truthful (branch start tag) ∨
    ∃ failure : DecodeError, failure.Unknown tag start ∧ branch start tag = Reader.fail failure) :
    Truthful (offset >>= fun start => byte >>= branch start) := by
  intro cursor
  suffices here : (byte >>= branch cursor.offset).TruthfulAt cursor from
    ⟨fun _ _ read => here.moves read, fun _ failed => here.tells failed⟩
  have byte : Truthful byte := .map (.map (truthful_bytes 1))
  by_cases unknown : ∃ tag between failure, Reader.byte cursor = .ok (tag, between) ∧
      failure.Unknown tag cursor.offset ∧ branch cursor.offset tag = Reader.fail failure
  · obtain ⟨tag, between, failure, taken, unknown, same⟩ := unknown
    have failed : (Reader.byte >>= branch cursor.offset) cursor = .error failure := by
      rw [bind_apply taken, same]
      rfl
    refine ⟨fun x after read => ?_, fun _ failed' => ?_⟩
    · rw [failed] at read
      cases read
    · cases failed.symm.trans failed'
      have split : cursor.rest = [] ++ tag :: between.rest := (exact_byte taken).2
      exact .unknown split unknown
  · refine (byte cursor).bind fun tag between taken => ?_
    obtain truthful | ⟨failure, names, same⟩ := branches cursor.offset tag
    · exact truthful between
    · exact absurd ⟨tag, between, failure, taken, names, same⟩ unknown

theorem truthful_compositional : Compositional @Truthful where
  pure := .pure
  bind := .bind
  bytes := truthful_bytes
  count := truthful_count
  invalidText fault := .fail fun _ _ => .invalidText fault
  invalidChar code := .fail fun _ _ => .invalidChar code
  tagged := .tagged

end Reader

/-- Bytes that are not decoded lack a header, or what the failure says of them is true. -/
theorem Module.trueOf_of_decode {bytes : Bytes} {failure : DecodeError} (failed : decode bytes = .error failure) :
    (failure = .shortHeader ∨ failure = .badMagic ∨ ∃ version, failure = .unsupportedVersion version) ∨
    failure.TrueOf 0 bytes := by
  unfold decode at failed
  split at failed
  · rename_i front version rest split
    obtain ⟨rfl, taken⟩ := splitExactly_eq_some split
    split at failed
    · cases failed
      exact Or.inl (Or.inr (Or.inl rfl))
    split at failed
    · cases failed
      exact Or.inl (Or.inr (Or.inr ⟨version, rfl⟩))
    cases read : Reader.module ⟨5, rest⟩ with
    | ok result =>
      rw [read] at failed
      cases failed
    | error fault =>
      rw [read] at failed
      cases failed
      have sound := (Reader.truthful_compositional.module ⟨5, rest⟩).tells read
      have header : (front ++ [version]).length = 5 := by rw [List.length_append, taken]; rfl
      rw [show front ++ version :: rest = front ++ [version] ++ rest
        from (List.append_assoc front [version] rest).symm]
      refine Or.inr (.append ?_)
      rwa [Nat.zero_add, header]
  · cases failed
    exact Or.inl (Or.inl rfl)

/-! What room is made for. -/

/-- Room that is made for the items of a list: as many as were announced, while so many bytes are left. -/
structure Reservation where
  count : Nat
  left : Nat
deriving DecidableEq

/-- A reader that notes the room it makes, also where it fails later. -/
abbrev NotingReader := StateT Cursor (ExceptT DecodeError (StateM (List Reservation)))

namespace NotingReader

open Reader (text bool valueType list)

variable {α β : Type}

/-- A reader that makes no room. -/
def quiet (item : Reader α) : NotingReader α := fun cursor => ExceptT.mk (pure (item cursor))

def note (count : Nat) : NotingReader Unit := fun cursor =>
  ExceptT.mk (modifyGet fun notes => (.ok ((), cursor), notes ++ [⟨count, cursor.rest.length⟩]))

def replicate (item : NotingReader α) : Nat → NotingReader (List α)
  | 0 => return []
  | n + 1 => do
    let head ← item
    let tail ← replicate item n
    return head :: tail

/-- As many items as announced, with room made for all of them before the first is read. -/
def counted (item : NotingReader α) : NotingReader (List α) := do
  let n ← quiet Reader.count
  note n
  replicate item n

def option (item : NotingReader α) : NotingReader (Option α) := do
  if ← quiet bool then return some (← item) else return none

def classDecl : NotingReader Class := return ⟨← quiet text, ← counted (quiet Reader.field)⟩

def code : NotingReader (Array Instruction) := return (← counted (quiet Reader.instruction)).toArray

def method : NotingReader Method := do
  let owner ← quiet text
  let name ← quiet text
  let isStatic ← quiet bool
  let params ← quiet (list valueType)
  let locals ← quiet (list valueType)
  let returns ← quiet (Reader.option valueType)
  let attributes ← quiet (list text)
  let body ← option code
  return { owner, name, isStatic, params, locals, returns, attributes, body }

def module : NotingReader Module := do
  let name ← quiet text
  let optimized ← quiet bool
  let debugInfo ← quiet Reader.debugInfo
  let metadata ← quiet (list Reader.entry)
  let classes ← counted classDecl
  let methods ← counted method
  return { name, optimized, debugInfo, metadata := .ofList metadata, classes, methods, sites := [] }

def ending (noting : NotingReader α) (cursor : Cursor) (notes : List Reservation) :
    Except DecodeError (α × Cursor) × List Reservation :=
  (noting cursor).run.run notes

/-- From the cursor on, the reader does what another one does, and makes no more room than there are bytes left. -/
def NotesAt (noting : NotingReader α) (item : Reader α) (cursor : Cursor) : Prop :=
  ∀ notes, ∃ more, noting.ending cursor notes = (item cursor, notes ++ more) ∧ ∀ made ∈ more, made.count ≤ made.left

def Notes (noting : NotingReader α) (item : Reader α) : Prop := ∀ cursor, NotesAt noting item cursor

variable {noting : NotingReader α} {item : Reader α} {next : α → NotingReader β} {next' : α → Reader β}
  {cursor : Cursor}

theorem ending_bind (notes : List Reservation) : (noting >>= next).ending cursor notes =
    match noting.ending cursor notes with
    | (.ok (x, between), notes) => (next x).ending between notes
    | (.error failure, notes) => (.error failure, notes) := by
  change (match noting.ending cursor notes with
    | (outcome, notes) =>
      (ExceptT.bindCont (fun read : α × Cursor => next read.1 read.2) outcome : StateM _ _).run notes) = _
  rcases noting.ending cursor notes with ⟨outcome, notes⟩
  cases outcome <;> rfl

/-- The notes of a sequence are those of its parts, and each is justified at the place where it was made. -/
theorem NotesAt.bind (first : NotesAt noting item cursor)
    (later : ∀ x between, item cursor = .ok (x, between) → NotesAt (next x) (next' x) between) :
    NotesAt (noting >>= next) (item >>= next') cursor := by
  intro notes
  obtain ⟨more, here, bounded⟩ := first notes
  rw [ending_bind, here]
  cases read : item cursor with
  | error failure =>
    have failed : (item >>= next') cursor = .error failure := Reader.bind_eq_error.2 (Or.inl read)
    exact ⟨more, by rw [failed], bounded⟩
  | ok result =>
    obtain ⟨x, between⟩ := result
    obtain ⟨more', there, bounded'⟩ := later x between read (notes ++ more)
    refine ⟨more ++ more', ?_, List.forall_mem_append.2 ⟨bounded, bounded'⟩⟩
    rw [Reader.bind_apply read, ← List.append_assoc]
    exact there

theorem notesAt_note {n : Nat} (enough : n ≤ cursor.rest.length) : NotesAt (note n) (pure ()) cursor :=
  fun _ => ⟨[⟨n, cursor.rest.length⟩], rfl, List.forall_mem_singleton.2 enough⟩

namespace Notes

theorem quiet (item : Reader α) : Notes (quiet item) item :=
  fun _ notes => ⟨[], by rw [List.append_nil]; rfl, fun _ member => (List.not_mem_nil member).elim⟩

theorem pure (x : α) : Notes (Pure.pure x) (Pure.pure x) :=
  fun _ notes => ⟨[], by rw [List.append_nil]; rfl, fun _ member => (List.not_mem_nil member).elim⟩

theorem bind (first : Notes noting item) (later : ∀ x, Notes (next x) (next' x)) :
    Notes (noting >>= next) (item >>= next') :=
  fun cursor => (first cursor).bind fun x between _ => later x between

theorem result {f : α → β} (noted : Notes noting item) :
    Notes (noting >>= fun x => Pure.pure (f x)) (item >>= fun x => Pure.pure (f x)) :=
  noted.bind fun x => .pure (f x)

theorem replicate (noted : Notes noting item) (n : Nat) : Notes (noting.replicate n) (item.replicate n) := by
  induction n with
  | zero => exact .pure []
  | succ n ih => exact noted.bind fun head => ih.result

/-- Room for a list is made once its length has been checked. -/
theorem counted (noted : Notes noting item) : Notes noting.counted item.counted := by
  have guarded : item.counted = Reader.count >>= fun n => Pure.pure () >>= fun _ => item.replicate n := by
    simp only [Reader.counted, pure_bind]
  rw [guarded]
  intro cursor
  refine NotesAt.bind (quiet _ cursor) fun n between read => ?_
  exact (notesAt_note (Reader.le_of_count read)).bind fun _ after _ => noted.replicate n after

theorem option (noted : Notes noting item) : Notes noting.option item.option := by
  refine .bind (.quiet _) fun present => ?_
  cases present
  · exact .pure none
  · exact noted.result

theorem classDecl : Notes classDecl Reader.classDecl := by
  rw [Reader.classDecl_eq]
  exact .bind (.quiet _) fun _ => .result (.counted (.quiet _))

theorem code : Notes code Reader.code := by
  rw [Reader.code_eq]
  exact .result (.counted (.quiet _))

theorem method : Notes method Reader.method := by
  rw [Reader.method_eq]
  exact .bind (.quiet _) fun _ => .bind (.quiet _) fun _ => .bind (.quiet _) fun _ => .bind (.quiet _) fun _ =>
    .bind (.quiet _) fun _ => .bind (.quiet _) fun _ => .bind (.quiet _) fun _ => .result (.option code)

theorem module : Notes module Reader.module := by
  rw [Reader.module_eq]
  exact .bind (.quiet _) fun _ => .bind (.quiet _) fun _ => .bind (.quiet _) fun _ => .bind (.quiet _) fun _ =>
    .bind (.counted classDecl) fun _ => .result (.counted method)

end Notes

end NotingReader

/-- Decoding, with the room that is made on the way. -/
def Module.decodeNoting (bytes : Bytes) : Except DecodeError Module × List Reservation :=
  match splitExactly 4 bytes with
  | some (front, version :: rest) =>
    if front != magic then (.error .badMagic, [])
    else if version != formatVersion then (.error (.unsupportedVersion version), [])
    else (NotingReader.module.ending ⟨5, rest⟩ []).map ((·.1) <$> ·) id
  | _ => (.error .shortHeader, [])

/-- Noting the allocations changes nothing, and none is larger than the bytes left when it is made. -/
theorem Module.decodeNoting_eq (bytes : Bytes) :
    ∃ notes, decodeNoting bytes = (decode bytes, notes) ∧ ∀ made ∈ notes, made.count ≤ made.left := by
  have nothing (made : Reservation) (member : made ∈ []) : made.count ≤ made.left := (List.not_mem_nil member).elim
  unfold decodeNoting decode
  rcases splitExactly 4 bytes with _ | ⟨front, _ | ⟨version, rest⟩⟩
  · exact ⟨[], rfl, nothing⟩
  · exact ⟨[], rfl, nothing⟩
  obtain ⟨notes, same, bounded⟩ := NotingReader.Notes.module ⟨5, rest⟩ []
  dsimp only
  rw [same]
  split
  · exact ⟨[], rfl, nothing⟩
  split
  · exact ⟨[], rfl, nothing⟩
  · exact ⟨notes, rfl, bounded⟩

/-- A decoded module has no more parts and text than there were bytes. -/
theorem Module.extent_le_of_decode {bytes : Bytes} {m : Module} (decoded : decode bytes = .ok m) :
    m.partCount + textSize m.texts ≤ bytes.length := by
  obtain ⟨rest, after, rfl, read⟩ := decode_eq_ok.1 decoded
  obtain ⟨-, bare, -, -, -, shorter, -⟩ := Reader.module_eq_ok read
  have shorter : m.content.length ≤ rest.length := shorter
  have extent := m.extent_le
  rw [bare] at extent
  rw [List.length_append, List.length_cons]
  omega

/-- The tag that is unknown, and where it stands. -/
def DecodeError.unknown? : DecodeError → Option (UInt8 × Nat)
  | unknownOpcode tag place | unknownDebugInfo tag place | unknownType tag place => some (tag, place)
  | _ => none

/-- A failure that names a tag names the byte at its place, which no writer produces there. -/
theorem Module.unknown_of_decode {bytes : Bytes} {failure : DecodeError} {tag : UInt8} {place : Nat}
    (failed : decode bytes = .error failure) (unknown : failure.unknown? = some (tag, place)) :
    ∃ inside : place < bytes.length, bytes[place] = tag ∧ failure.Unknown tag place := by
  obtain (rfl | rfl | ⟨version, rfl⟩) | sound := trueOf_of_decode failed
  · cases unknown
  · cases unknown
  · cases unknown
  cases sound with
  | truncated | invalidText | invalidChar => cases unknown
  | @unknown _ given front back split names =>
    have same : failure.unknown? = some (given, 0 + front.length) := by cases names <;> rfl
    obtain ⟨rfl, rfl⟩ := Prod.mk.inj (Option.some.inj (same.symm.trans unknown))
    rw [Nat.zero_add] at names ⊢
    subst split
    exact ⟨by simp, by simp, names⟩

/-- Bytes are decoded as no more than they are: the parts of the module and its texts take up no more than all
of them, and room is made for no more items than bytes are left. A failure tells the truth: bytes are wanted
within the data or at its end, and an unknown tag stands where it is said to and is one that is never written
there. -/
theorem Module.decode_bounded (bytes : Bytes) :
    (∀ m, decode bytes = .ok m → m.partCount + textSize m.texts ≤ bytes.length) ∧
      ((decodeNoting bytes).1 = decode bytes ∧ ∀ made ∈ (decodeNoting bytes).2, made.count ≤ made.left) ∧
      (∀ place, decode bytes = .error (.truncated place) → place ≤ bytes.length) ∧
      (∀ tag place, decode bytes = .error (.unknownOpcode tag place) →
        ∃ inside : place < bytes.length, bytes[place] = tag ∧ Unwritten Opcode.encode tag) ∧
      (∀ tag place, decode bytes = .error (.unknownType tag place) →
        ∃ inside : place < bytes.length, bytes[place] = tag ∧ Unwritten ValueType.encode tag) ∧
      (∀ tag place, decode bytes = .error (.unknownDebugInfo tag place) →
        ∃ inside : place < bytes.length, bytes[place] = tag ∧ Unwritten DebugInfo.encode tag) := by
  refine ⟨fun m => extent_le_of_decode, ?_, fun place failed => ?_, ?_, ?_, ?_⟩
  · obtain ⟨notes, same, bounded⟩ := decodeNoting_eq bytes
    rw [same]
    exact ⟨rfl, bounded⟩
  · obtain (absurd | absurd | ⟨version, absurd⟩) | sound := trueOf_of_decode failed
    · cases absurd
    · cases absurd
    · cases absurd
    cases sound with
    | truncated within => rwa [Nat.zero_add] at within
    | unknown split names => cases names
  · intro tag place failed
    obtain ⟨inside, stands, names⟩ := unknown_of_decode failed rfl
    cases names with
    | opcode unwritten => exact ⟨inside, stands, unwritten⟩
  · intro tag place failed
    obtain ⟨inside, stands, names⟩ := unknown_of_decode failed rfl
    cases names with
    | type unwritten => exact ⟨inside, stands, unwritten⟩
  · intro tag place failed
    obtain ⟨inside, stands, names⟩ := unknown_of_decode failed rfl
    cases names with
    | debugInfo unwritten => exact ⟨inside, stands, unwritten⟩

/-- Bytes with loose flags, and five damaged copies of them with the failure each gives. -/
theorem Module.decode_bounded_loose :
    (decode looseBytes = .ok looseModule ∧ looseModule.partCount + textSize looseModule.texts ≤ looseBytes.length) ∧
      ((decodeNoting looseBytes).2 = [⟨0, 37⟩, ⟨1, 33⟩, ⟨2, 4⟩] ∧ ∀ made ∈ (decodeNoting looseBytes).2,
        made.count ≤ made.left) ∧
      (decode (looseBytes.take 60) = .error (.truncated 58) ∧ 58 ≤ (looseBytes.take 60).length) ∧
      (decode (looseBytes.set 74 200) = .error (.unknownOpcode 200 74) ∧ Unwritten Opcode.encode 200) ∧
      (decode (looseBytes.set 58 200) = .error (.unknownType 255 67) ∧ Unwritten ValueType.encode 255) ∧
      (decode (looseBytes.set 11 200) = .error (.unknownDebugInfo 200 11) ∧ Unwritten DebugInfo.encode 200) := by
  have decoded : decode looseBytes = .ok looseModule := by rfl
  have cut : decode (looseBytes.take 60) = .error (.truncated 58) := by rfl
  have opcode : decode (looseBytes.set 74 200) = .error (.unknownOpcode 200 74) := by rfl
  have type : decode (looseBytes.set 58 200) = .error (.unknownType 255 67) := by rfl
  have debugInfo : decode (looseBytes.set 11 200) = .error (.unknownDebugInfo 200 11) := by rfl
  obtain ⟨extent, ⟨-, room⟩, -⟩ := decode_bounded looseBytes
  obtain ⟨-, -, truncated, -⟩ := decode_bounded (looseBytes.take 60)
  obtain ⟨-, -, -, unknownOpcode, -⟩ := decode_bounded (looseBytes.set 74 200)
  obtain ⟨-, -, -, -, unknownType, -⟩ := decode_bounded (looseBytes.set 58 200)
  obtain ⟨-, -, -, -, -, unknownDebugInfo⟩ := decode_bounded (looseBytes.set 11 200)
  obtain ⟨-, -, unwritten⟩ := unknownOpcode 200 74 opcode
  obtain ⟨-, -, unwritten'⟩ := unknownType 255 67 type
  obtain ⟨-, -, unwritten''⟩ := unknownDebugInfo 200 11 debugInfo
  exact ⟨⟨decoded, extent looseModule decoded⟩, ⟨by rfl, room⟩, ⟨cut, truncated 58 cut⟩, ⟨opcode, unwritten⟩,
    ⟨type, unwritten'⟩, debugInfo, unwritten''⟩

end Faultline
