import Faultline.Proofs.Code.Canonical

namespace Faultline

namespace Reader

/-! Which of the bytes that a reader takes are flags: zero says no, and any other byte yes. -/

def optionFlags (flags : Reader (List UInt8)) : Reader (List UInt8) := do
  let present ← byte
  if present != 0 then return present :: (← flags) else return [present]

/-- The operand of a `loadBool` comes right after its tag. -/
def opcodeFlags : Reader (List UInt8) := fun cursor => do
  let (operation, after) ← opcode cursor
  return (if operation.hasFlag then (cursor.rest.drop 1).take 1 else [], after)

def fieldFlags : Reader (List UInt8) := do
  let _ ← text
  let _ ← valueType
  return [← byte]

def classFlags : Reader (List UInt8) := do
  let _ ← text
  return (← counted fieldFlags).flatten

def codeFlags : Reader (List UInt8) := return (← counted opcodeFlags).flatten

def methodFlags : Reader (List UInt8) := do
  let _ ← text
  let _ ← text
  let isStatic ← byte
  let _ ← list valueType
  let _ ← list valueType
  let returns ← optionFlags (do let _ ← valueType; return [])
  let _ ← list text
  let body ← optionFlags codeFlags
  return isStatic :: returns ++ body

/-- The flags of a module, and the keys of its metadata in the order they come in. -/
def moduleFlags : Reader (List UInt8 × List String) := do
  let _ ← text
  let optimized ← byte
  let _ ← debugInfo
  let metadata ← list entry
  let classes ← counted classFlags
  let methods ← counted methodFlags
  return (optimized :: classes.flatten ++ methods.flatten, metadata.map (·.1))

end Reader

/-- What the bytes of a module hold beyond the module itself: the spelling of its flags, the order and
the repetition of its metadata, and the bytes behind it. -/
structure Survey where
  flags : List UInt8
  keys : List String
  tail : Bytes
deriving DecidableEq

def Module.survey (bytes : Bytes) : Except DecodeError Survey := do
  let ((flags, keys), after) ← Reader.moduleFlags ⟨5, bytes.drop 5⟩
  return { flags, keys, tail := after.rest }

/-- Bytes, and those that are written for what they say: as many, and the same if every flag is 0 or 1. -/
def Respelled (flags : List UInt8) (raw written : Bytes) : Prop :=
  written.length = raw.length ∧ (written = raw ↔ ∀ flag ∈ flags, flag = 0 ∨ flag = 1)

namespace Respelled

variable {flags flags' : List UInt8} {raw raw' written written' : Bytes}

theorem same (raw : Bytes) : Respelled [] raw raw :=
  ⟨rfl, iff_of_true rfl fun _ member => absurd member List.not_mem_nil⟩

/-- A flag byte is respelled as 0 or 1 and is canonical exactly when it is one of them. -/
theorem flag (flag : UInt8) : Respelled [flag] [flag] (encodeBool (flag != 0)) := by
  by_cases zero : flag = 0
  · subst zero
    exact ⟨rfl, iff_of_true rfl fun _ member => Or.inl (List.mem_singleton.1 member)⟩
  · have yes : encodeBool (flag != 0) = [1] := by rw [bne_iff_ne.2 zero]; rfl
    rw [yes]
    refine ⟨rfl, fun same => ?_, fun proper => ?_⟩
    · cases same
      exact fun _ member => Or.inr (List.mem_singleton.1 member)
    · rw [(proper flag (List.mem_singleton.2 rfl)).resolve_left zero]

theorem append (front : Respelled flags raw written) (back : Respelled flags' raw' written') :
    Respelled (flags ++ flags') (raw ++ raw') (written ++ written') := by
  refine ⟨by rw [List.length_append, List.length_append, front.1, back.1], ?_⟩
  rw [List.forall_mem_append, ← front.2, ← back.2]
  exact ⟨fun same => List.append_inj same front.1, fun same => by rw [same.1, same.2]⟩

theorem append_same (front : Respelled flags raw written) (back : Bytes) :
    Respelled flags (raw ++ back) (written ++ back) := by
  have whole := front.append (.same back)
  rwa [List.append_nil] at whole

end Respelled

theorem ListFits.imp {α : Type} {Fits Fits' : α → Prop} {items : List α} (fits : ListFits Fits items)
    (weaker : ∀ x, Fits x → Fits' x) : ListFits Fits' items :=
  ⟨fits.1, fun x member => weaker x (fits.2 x member)⟩

namespace Reader

variable {α : Type} {item : Reader α} {flags : Reader (List UInt8)} {encode : α → Bytes} {Fits : α → Prop}

/-- What is read is a value that fits, from its encoding but for the flags. -/
def Spelled (item : Reader α) (flags : Reader (List UInt8)) (encode : α → Bytes) (Fits : α → Prop) : Prop :=
  ∀ ⦃cursor after x⦄, item cursor = .ok (x, after) → Fits x ∧ ∃ found raw, flags cursor = .ok (found, after) ∧
    cursor.rest = raw ++ after.rest ∧ Respelled found raw (encode x)

theorem spelled_of_exact (exact : Exact item encode Fits) :
    Spelled item (do let _ ← item; return []) encode Fits := by
  intro cursor after x read
  obtain ⟨fits, split⟩ := exact read
  exact ⟨fits, [], encode x, by rw [bind_apply read]; rfl, split, .same _⟩

/-- Items in a row are spelled canonically when each of them is. -/
theorem spelled_replicate (spelled : Spelled item flags encode Fits) (n : Nat) :
    Spelled (replicate item n) (List.flatten <$> replicate flags n) (fun items => items.flatMap encode)
      fun items => items.length = n ∧ ∀ x ∈ items, Fits x := by
  induction n with
  | zero =>
    intro cursor after items read
    obtain ⟨rfl, rfl⟩ := pure_eq_ok.1 read
    exact ⟨⟨rfl, fun _ member => absurd member List.not_mem_nil⟩, [], [], rfl, rfl, .same []⟩
  | succ n ih =>
    intro cursor after items read
    obtain ⟨first, between, readFirst, later⟩ := bind_eq_ok.1 read
    obtain ⟨rest, between', readRest, done⟩ := bind_eq_ok.1 later
    obtain ⟨rfl, rfl⟩ := pure_eq_ok.1 done
    obtain ⟨fits, found, raw, flagged, split, respelled⟩ := spelled readFirst
    obtain ⟨⟨rfl, allFit⟩, found', raw', flagged', split', respelled'⟩ := ih readRest
    obtain ⟨founds, others, rfl⟩ := map_eq_ok.1 flagged'
    refine ⟨⟨rfl, List.forall_mem_cons.2 ⟨fits, allFit⟩⟩, found ++ founds.flatten, raw ++ raw', ?_, ?_,
      respelled.append respelled'⟩
    · refine map_eq_ok.2 ⟨found :: founds, ?_, rfl⟩
      rw [replicate, bind_apply flagged, bind_apply others]
      rfl
    · rw [split, split', List.append_assoc]

/-- A list with its length in front is spelled canonically when its items are. -/
theorem spelled_counted (spelled : Spelled item flags encode Fits) :
    Spelled (counted item) (List.flatten <$> counted flags) (encodeList encode) (ListFits Fits) := by
  intro cursor after items read
  obtain ⟨n, between, guarded, later⟩ := bind_eq_ok.1 read
  obtain ⟨small, split⟩ := exact_length (count_eq_ok guarded)
  obtain ⟨⟨rfl, allFit⟩, found, raw, flagged, split', respelled⟩ := spelled_replicate spelled n later
  obtain ⟨founds, others, rfl⟩ := map_eq_ok.1 flagged
  refine ⟨⟨small, allFit⟩, founds.flatten, encodeLength items.length ++ raw, ?_, ?_,
    (Respelled.same _).append respelled⟩
  · exact map_eq_ok.2 ⟨founds, by rw [counted, bind_apply guarded, others], rfl⟩
  · rw [split, split', List.append_assoc]

/-- An optional item is spelled canonically when its presence flag and the item are. -/
theorem spelled_option (spelled : Spelled item flags encode Fits) :
    Spelled (option item) (optionFlags flags) (encodeOption encode) fun value => ∀ x ∈ value, Fits x := by
  intro cursor after value read
  obtain ⟨present, between, readFlag, later⟩ := bind_eq_ok.1 read
  obtain ⟨flag, taken, rfl, split⟩ := bool_eq_ok readFlag
  have whole := Respelled.flag flag
  cases present : flag != 0 with
  | true =>
    rw [present, if_pos rfl] at later
    rw [present] at whole
    obtain ⟨x, between', readItem, done⟩ := bind_eq_ok.1 later
    obtain ⟨rfl, rfl⟩ := pure_eq_ok.1 done
    obtain ⟨fits, found, raw, flagged, split', respelled⟩ := spelled readItem
    refine ⟨fun _ member => Option.some.inj member ▸ fits, flag :: found, flag :: raw, ?_, ?_, whole.append respelled⟩
    · rw [optionFlags, bind_apply taken, if_pos present, bind_apply flagged]
      rfl
    · rw [split, split', List.cons_append]
  | false =>
    rw [present, if_neg Bool.false_ne_true] at later
    rw [present] at whole
    obtain ⟨rfl, rfl⟩ := pure_eq_ok.1 later
    refine ⟨fun _ member => (Option.not_mem_none _ member).elim, [flag], [flag], ?_, split, whole⟩
    rw [optionFlags, bind_apply taken, present, if_neg Bool.false_ne_true]
    rfl

theorem spelled_opcode : Spelled opcode opcodeFlags Opcode.encode Opcode.Fits := by
  intro cursor after operation read
  rcases opcode_eq_ok read with ⟨flag, rfl, split⟩ | ⟨unflagged, fits, split⟩
  · refine ⟨trivial, [flag], [5, flag], ?_, split, (Respelled.same [5]).append (.flag flag)⟩
    simp [opcodeFlags, read, split, Opcode.hasFlag, bind, Except.bind, pure, Except.pure]
  · refine ⟨fits, [], operation.encode, ?_, split, .same _⟩
    simp [opcodeFlags, read, unflagged, bind, Except.bind, pure, Except.pure]

/-- Of a field only the flag for static can be spelled in more than one way. -/
theorem spelled_field : Spelled field fieldFlags Field.encode Field.Fits := by
  intro cursor after declared read
  obtain ⟨name, between, readName, later⟩ := bind_eq_ok.1 read
  obtain ⟨type, between', readType, later⟩ := bind_eq_ok.1 later
  obtain ⟨isStatic, between'', readFlag, done⟩ := bind_eq_ok.1 later
  obtain ⟨rfl, rfl⟩ := pure_eq_ok.1 done
  obtain ⟨fitsName, splitName⟩ := exact_text readName
  obtain ⟨fitsType, splitType⟩ := exact_valueType readType
  obtain ⟨flag, taken, rfl, splitFlag⟩ := bool_eq_ok readFlag
  refine ⟨⟨fitsName, fitsType⟩, [flag], encodeText name ++ type.encode ++ [flag], ?_, ?_,
    (Respelled.same _).append (.flag flag)⟩
  · rw [fieldFlags, bind_apply readName, bind_apply readType, bind_apply taken]
    rfl
  · rw [splitName, splitType, splitFlag, List.append_assoc, List.append_assoc, List.singleton_append]

/-- A class is spelled canonically when its fields are. -/
theorem spelled_classDecl : Spelled classDecl classFlags Class.encode Class.Fits := by
  intro cursor after declared read
  rw [classDecl_eq] at read
  obtain ⟨name, between, readName, later⟩ := bind_eq_ok.1 read
  obtain ⟨fields, between', readFields, done⟩ := bind_eq_ok.1 later
  obtain ⟨rfl, rfl⟩ := pure_eq_ok.1 done
  obtain ⟨fitsName, splitName⟩ := exact_text readName
  obtain ⟨fitsFields, found, raw, flagged, splitFields, respelled⟩ := spelled_counted spelled_field readFields
  obtain ⟨founds, counted, rfl⟩ := map_eq_ok.1 flagged
  refine ⟨⟨fitsName, fitsFields⟩, founds.flatten, encodeText name ++ raw, ?_, ?_, (Respelled.same _).append respelled⟩
  · rw [classFlags, bind_apply readName, bind_apply counted]
    rfl
  · rw [splitName, splitFields, List.append_assoc]

theorem bare_code {written : Array Instruction}
    (bare : ∀ instruction ∈ written.toList, instruction.bare = instruction) :
    written.map Instruction.bare = written := by
  rw [← Array.toList_inj, Array.toList_map]
  exact (List.map_congr_left bare).trans (List.map_id' _)

theorem spelled_instruction : Spelled instruction opcodeFlags (fun written => written.opcode.encode)
    fun written => written.opcode.Fits ∧ written.bare = written := by
  intro cursor after written read
  obtain ⟨operation, between, readOpcode, done⟩ := bind_eq_ok.1 read
  obtain ⟨rfl, rfl⟩ := pure_eq_ok.1 done
  obtain ⟨fits, spelled⟩ := spelled_opcode readOpcode
  exact ⟨⟨fits, rfl⟩, spelled⟩

/-- A body is spelled canonically when its instructions are, and is read without locations. -/
theorem spelled_code : Spelled code codeFlags encodeCode
    fun written => ListFits (fun instruction => instruction.opcode.Fits ∧ instruction.bare = instruction)
      written.toList := by
  intro cursor after written read
  rw [code_eq] at read
  obtain ⟨instructions, between, readCode, done⟩ := bind_eq_ok.1 read
  obtain ⟨rfl, rfl⟩ := pure_eq_ok.1 done
  obtain ⟨fits, found, raw, flagged, split, respelled⟩ := spelled_counted spelled_instruction readCode
  obtain ⟨founds, counted, rfl⟩ := map_eq_ok.1 flagged
  refine ⟨fits, founds.flatten, raw, ?_, split, respelled⟩
  rw [codeFlags, bind_apply counted]
  rfl

/-- The flags of a method, in the order in which they are read: static, the return type, the body and its
instructions. -/
theorem spelled_method : Spelled method methodFlags Method.encode fun written => written.Fits ∧
    written.bare = written := by
  intro cursor after written read
  rw [method_eq] at read
  obtain ⟨owner, _, readOwner, later⟩ := bind_eq_ok.1 read
  obtain ⟨name, _, readName, later⟩ := bind_eq_ok.1 later
  obtain ⟨isStatic, _, readStatic, later⟩ := bind_eq_ok.1 later
  obtain ⟨params, _, readParams, later⟩ := bind_eq_ok.1 later
  obtain ⟨locals, _, readLocals, later⟩ := bind_eq_ok.1 later
  obtain ⟨returns, _, readReturns, later⟩ := bind_eq_ok.1 later
  obtain ⟨attributes, _, readAttributes, later⟩ := bind_eq_ok.1 later
  obtain ⟨body, _, readBody, done⟩ := bind_eq_ok.1 later
  obtain ⟨rfl, rfl⟩ := pure_eq_ok.1 done
  obtain ⟨fitsOwner, splitOwner⟩ := exact_text readOwner
  obtain ⟨fitsName, splitName⟩ := exact_text readName
  obtain ⟨flag, taken, rfl, splitStatic⟩ := bool_eq_ok readStatic
  obtain ⟨fitsParams, splitParams⟩ := exact_list exact_valueType readParams
  obtain ⟨fitsLocals, splitLocals⟩ := exact_list exact_valueType readLocals
  obtain ⟨fitsReturns, found, raw, flagged, splitReturns, respelled⟩ :=
    spelled_option (spelled_of_exact exact_valueType) readReturns
  obtain ⟨fitsAttributes, splitAttributes⟩ := exact_list exact_text readAttributes
  obtain ⟨fitsBody, found', raw', flagged', splitBody, respelled'⟩ := spelled_option spelled_code readBody
  have bare : body.map (·.map Instruction.bare) = body := by
    cases body with
    | none => rfl
    | some written =>
      exact congrArg some (bare_code fun instruction member => ((fitsBody written rfl).2 instruction member).2)
  have respelledAll := ((((((Respelled.same (encodeText owner ++ encodeText name)).append (.flag flag)).append_same
    (encodeList ValueType.encode params)).append_same (encodeList ValueType.encode locals)).append
    respelled).append_same
    (encodeList encodeText attributes)).append respelled'
  refine ⟨⟨⟨fitsOwner, fitsName, fitsParams, fitsLocals, fitsReturns, fitsAttributes, fun written present =>
    (fitsBody written present).imp fun _ => And.left⟩, ?_⟩, _, _, ?_, ?_, respelledAll⟩
  · rw [Method.bare, bare]
  · rw [methodFlags, bind_apply readOwner, bind_apply readName, bind_apply taken, bind_apply readParams,
      bind_apply readLocals, bind_apply flagged, bind_apply readAttributes, bind_apply flagged']
    rfl
  · rw [splitOwner, splitName, splitStatic, splitParams, splitLocals, splitReturns, splitAttributes, splitBody]
    simp only [List.append_assoc, List.cons_append, List.nil_append]

end Reader

theorem length_encodeList {α : Type} (encode : α → Bytes) (items : List α) :
    (encodeList encode items).length = 4 + (items.map fun item => (encode item).length).sum := by
  rw [encodeList, List.length_append, List.length_flatMap]
  exact congrArg (· + _) (length_littleEndian 4 _)

section Metadata

variable {entries : List (String × String)}

theorem fits_ofList (fits : ListFits (fun entry => TextFits entry.1 ∧ TextFits entry.2) entries) :
    ListFits (fun entry => TextFits entry.1 ∧ TextFits entry.2) (Table.ofList entries).entries := by
  have fewer := Table.sum_ofList (fun _ => 1) entries
  simp only [List.map_const', List.sum_replicate_nat, Nat.mul_one] at fewer
  exact ⟨lt_of_le_of_lt fewer fits.1, fun entry member => fits.2 entry (Table.mem_ofList member)⟩

theorem length_encodeList_ofList (entries : List (String × String)) :
    (encodeList encodeEntry (Table.ofList entries).entries).length ≤ (encodeList encodeEntry entries).length := by
  rw [length_encodeList, length_encodeList]
  exact Nat.add_le_add_left (Table.sum_ofList (fun entry => (encodeEntry entry).length) entries) 4

/-- The metadata is written as it was read just where its keys are in the order of their bytes. -/
theorem encodeList_ofList (fits : ListFits (fun entry => TextFits entry.1 ∧ TextFits entry.2) entries) :
    encodeList encodeEntry (Table.ofList entries).entries = encodeList encodeEntry entries ↔
      (entries.map (·.1)).Pairwise fun key key' => textBytes key < textBytes key' := by
  have ordered : (entries.map (·.1)).Pairwise (fun key key' => textBytes key < textBytes key') ↔
      (Table.ofList entries).entries = entries := by
    simp only [Table.entries_ofList, List.pairwise_map, compare_lt_iff_textBytes]
  rw [ordered]
  refine ⟨fun same => ?_, fun same => by rw [same]⟩
  have read := Reader.reads_list fits fun _ => Reader.reads_entry
  have read' := Reader.reads_list (fits_ofList fits) fun _ => Reader.reads_entry
  rw [List.map_id'] at read read'
  exact (same ▸ read').unique read

end Metadata

/-- Since the part between them can only get shorter, all parts must be the same if the whole is, and nothing can come
behind them. -/
theorem Respelled.around {flags flags' : List UInt8} {front front' middle middle' back back' : Bytes}
    (before : Respelled flags front front') (shorter : middle'.length ≤ middle.length)
    (behind : Respelled flags' back back') (tail : Bytes) :
    (front' ++ (middle' ++ back')).length ≤ (front ++ (middle ++ (back ++ tail))).length ∧
      (front' ++ (middle' ++ back') = front ++ (middle ++ (back ++ tail)) ↔
        (∀ flag ∈ flags ++ flags', flag = 0 ∨ flag = 1) ∧ middle' = middle ∧ tail = []) := by
  have sizes := before.1
  have sizes' := behind.1
  constructor
  · simp only [List.length_append]
    omega
  rw [List.forall_mem_append, ← before.2, ← behind.2]
  constructor
  · intro same
    have total := congrArg List.length same
    simp only [List.length_append] at total
    have nothing : tail = [] := List.eq_nil_of_length_eq_zero (by omega)
    subst nothing
    rw [List.append_nil] at same
    obtain ⟨sameFront, rest⟩ := List.append_inj same sizes
    obtain ⟨sameMiddle, sameBack⟩ := List.append_inj' rest sizes'
    exact ⟨⟨sameFront, sameBack⟩, sameMiddle, rfl⟩
  · rintro ⟨⟨rfl, rfl⟩, rfl, rfl⟩
    rw [List.append_nil]

theorem Module.content_eq (m : Module) :
    m.content = encodeText m.name ++ encodeBool m.optimized ++ m.debugInfo.encode ++
      (encodeList encodeEntry m.metadata.entries ++
        (encodeList Class.encode m.classes ++ encodeList Method.encode m.methods)) := by
  simp only [content, List.append_assoc]

/-- A module that was read fits and is bare, is written in no more bytes than it was read from, and in the
same bytes exactly when every flag is 0 or 1, the metadata keys ascend and nothing follows. -/
theorem Reader.module_eq_ok {cursor after : Cursor} {m : Module} (read : Reader.module cursor = .ok (m, after)) :
    m.Fits ∧ m.bare = m ∧ ∃ flags keys, moduleFlags cursor = .ok ((flags, keys), after) ∧
      m.content.length ≤ cursor.rest.length ∧
      (m.content = cursor.rest ↔ (∀ flag ∈ flags, flag = 0 ∨ flag = 1) ∧
        keys.Pairwise (fun key key' => textBytes key < textBytes key') ∧ after.rest = []) := by
  rw [module_eq] at read
  obtain ⟨name, _, readName, later⟩ := bind_eq_ok.1 read
  obtain ⟨optimized, _, readOptimized, later⟩ := bind_eq_ok.1 later
  obtain ⟨debugInfo, _, readDebugInfo, later⟩ := bind_eq_ok.1 later
  obtain ⟨entries, _, readEntries, later⟩ := bind_eq_ok.1 later
  obtain ⟨classes, _, readClasses, later⟩ := bind_eq_ok.1 later
  obtain ⟨methods, last, readMethods, done⟩ := bind_eq_ok.1 later
  obtain ⟨rfl, rfl⟩ := pure_eq_ok.1 done
  obtain ⟨fitsName, splitName⟩ := exact_text readName
  obtain ⟨flag, taken, rfl, splitOptimized⟩ := bool_eq_ok readOptimized
  obtain ⟨-, splitDebugInfo⟩ := exact_debugInfo readDebugInfo
  obtain ⟨fitsEntries, splitEntries⟩ := exact_list exact_entry readEntries
  obtain ⟨fitsClasses, found, raw, flagged, splitClasses, respelled⟩ := spelled_counted spelled_classDecl readClasses
  obtain ⟨fitsMethods, found', raw', flagged', splitMethods, respelled'⟩ := spelled_counted spelled_method readMethods
  obtain ⟨founds, counted, rfl⟩ := map_eq_ok.1 flagged
  obtain ⟨founds', counted', rfl⟩ := map_eq_ok.1 flagged'
  have whole : cursor.rest = (encodeText name ++ [flag] ++ debugInfo.encode) ++
      (encodeList encodeEntry entries ++ ((raw ++ raw') ++ last.rest)) := by
    rw [splitName, splitOptimized, splitDebugInfo, splitEntries, splitClasses, splitMethods]
    simp only [List.append_assoc, List.cons_append, List.nil_append]
  have bare : methods.map Method.bare = methods :=
    (List.map_congr_left fun written member => (fitsMethods.2 written member).2).trans (List.map_id' _)
  have front := ((Respelled.same (encodeText name)).append (.flag flag)).append_same debugInfo.encode
  obtain ⟨shorter, same⟩ := front.around (length_encodeList_ofList entries) (respelled.append respelled') last.rest
  rw [← whole] at shorter same
  rw [encodeList_ofList fitsEntries] at same
  refine ⟨⟨fitsName, fits_ofList fitsEntries, fitsClasses, fitsMethods.imp fun _ => And.left⟩, ?_,
    flag :: founds.flatten ++ founds'.flatten, entries.map (·.1), ?_, ?_⟩
  · rw [Module.bare, bare]
  · rw [moduleFlags, bind_apply readName, bind_apply taken, bind_apply readDebugInfo, bind_apply readEntries,
      bind_apply counted, bind_apply counted']
    rfl
  · rw [Module.content_eq]
    exact ⟨shorter, same⟩

/-- What is written for the module that bytes are read as is read as that module again. It is no longer
than they are, and the same where each flag is spelled 0 or 1, the keys of the metadata ascend and nothing
follows the module. -/
theorem Module.encode_decode {bytes : Bytes} {m : Module} (decoded : Module.decode bytes = .ok m) :
    Module.decode m.encode = .ok m ∧ m.encode.length ≤ bytes.length ∧
      ∃ survey, Module.survey bytes = .ok survey ∧
        (m.encode = bytes ↔ (∀ flag ∈ survey.flags, flag = 0 ∨ flag = 1) ∧
          survey.keys.Pairwise (fun key key' => textBytes key < textBytes key') ∧ survey.tail = []) := by
  obtain ⟨rest, after, rfl, read⟩ := decode_eq_ok.1 decoded
  obtain ⟨fits, bare, flags, keys, surveyed, shorter, same⟩ := Reader.module_eq_ok read
  have shorter : m.content.length ≤ rest.length := shorter
  have again := decode_of_fits fits
  rw [bare] at again
  refine ⟨again, ?_, ⟨flags, keys, after.rest⟩, ?_, ?_⟩
  · rw [encode_eq, List.length_append, List.length_append, List.length_cons, List.length_cons]
    omega
  · have start : (magic ++ formatVersion :: rest).drop 5 = rest := rfl
    rw [survey, start, surveyed]
    rfl
  · rw [encode_eq, ← same, List.append_cancel_left_eq, List.cons.injEq]
    exact and_iff_right rfl

/-- A module whose flags are not all spelled 0 or 1, whose metadata is not in order, and with a byte behind it. -/
def looseBytes : Bytes :=
  magic ++ [1, 1, 0, 0, 0, 77, 2, 2, 2, 0, 0, 0, 1, 0, 0, 0, 107, 1, 0, 0, 0, 97, 1, 0, 0, 0, 98, 0, 0,
    0, 0, 0, 0, 0, 0,
    1, 0, 0, 0, 1, 0, 0, 0, 77, 1, 0, 0, 0, 102, 1, 0, 0, 0, 0, 0, 0, 0, 0, 0, 0, 0, 0, 0, 255, 2, 0,
    0, 0, 5, 7, 45, 9]

def looseModule : Module :=
  { name := "M", optimized := true, debugInfo := .full, metadata := .ofList [("b", ""), ("k", "a")],
    classes := [], sites := []
    methods :=
      [{ owner := "M", name := "f", isStatic := true, params := [], locals := [], returns := none, attributes := []
         body := some #[⟨.loadBool true, none⟩, ⟨.return, none⟩] }] }

/-- Bytes with a flag that is neither 0 nor 1, metadata out of order and a trailing byte. -/
theorem Module.encode_decode_loose :
    Module.decode looseBytes = .ok looseModule ∧ Module.decode looseModule.encode = .ok looseModule ∧
      looseModule.encode.length ≤ looseBytes.length ∧
      Module.survey looseBytes = .ok ⟨[2, 1, 0, 255, 7], ["k", "b"], [9]⟩ ∧
      looseModule.encode ≠ looseBytes := by
  have decoded : Module.decode looseBytes = .ok looseModule := by rfl
  have surveyed : Module.survey looseBytes = .ok ⟨[2, 1, 0, 255, 7], ["k", "b"], [9]⟩ := by rfl
  obtain ⟨again, shorter, survey, surveyed', same⟩ := encode_decode decoded
  cases surveyed.symm.trans surveyed'
  exact ⟨decoded, again, shorter, surveyed, fun written => absurd (same.1 written).2.2 (List.cons_ne_nil _ _)⟩

end Faultline
