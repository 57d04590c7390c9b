import Faultline.Proofs.Code.Symbols
import Faultline.Proofs.Storage.Access

namespace Faultline

variable {store store' : SnapshotStore} {disk disk' : Disk} {files : ModuleFiles} {module : Module}

namespace Disk

/-- What a module's files hold: the symbols count if there is a file of them. -/
inductive Loads (disk : Disk) (files : ModuleFiles) (module : Module) : Prop
  | bare {bytes : Bytes} (found : disk.read files.binary = .ok bytes) (decoded : Module.decode bytes = .ok module)
      (absent : disk.isFile files.symbols = false)
  | located {bytes : Bytes} {text : String} {symbols : Symbols} {bare : Module}
      (found : disk.read files.binary = .ok bytes)
      (decoded : Module.decode bytes = .ok bare) (present : disk.read files.symbols = .ok (textBytes text))
      (parsed : Symbols.ofText? text = some symbols) (applied : symbols.applyTo bare = (module, .ok ()))

/-- The binary is written, and then the symbols. -/
def Stores (disk : Disk) (files : ModuleFiles) (module : Module) (disk' : Disk) : Prop :=
  ∃ between, disk.Writes files.binary module.encode between ∧
    between.Writes files.symbols (textBytes module.symbols.text) disk'

/-- The places of a module's two files. -/
def Holds (disk : Disk) (files : ModuleFiles) (place : Place) : Prop :=
  place = disk.placeOf files.binary ∨ place = disk.placeOf files.symbols

/-- Both files are there, with these contents. -/
structure Contains (disk : Disk) (files : ModuleFiles) (bytes bytes' : Bytes) : Prop where
  binary : disk.read files.binary = .ok bytes
  symbols : disk.read files.symbols = .ok bytes'

/-- What stands at a path, if it is a file. -/
def contents (disk : Disk) (path : Path) : Option Bytes := (disk.read path).toOption

/-- The contents of a module's two files. -/
def pair (disk : Disk) (files : ModuleFiles) : Option Bytes × Option Bytes :=
  (disk.contents files.binary, disk.contents files.symbols)

/-- The files are those that are written for the module. -/
def Bears (disk : Disk) (files : ModuleFiles) (module : Module) : Prop :=
  disk.Contains files module.encode (textBytes module.symbols.text)

/-- The folders of both files are there. -/
def Prepared (disk : Disk) (files : ModuleFiles) : Prop := disk.Ready files.binary ∧ disk.Ready files.symbols

/-- Whatever is done to the disk, the files stay out of it. -/
def Spares (disk : Disk) (files : ModuleFiles) (disk' : Disk) : Prop := Changes (¬ disk.Holds files ·) disk disk'

end Disk

theorem does_hasSymbols {ε : Type} {found : Bool} :
    Does (files.hasSymbols : Work ε Bool) store disk found store' disk' ↔
    disk.isFile files.symbols = found ∧ store = store' ∧ disk = disk' :=
  does_isFile

/-- What reading a symbol file does. -/
theorem does_readSymbols {symbols : Symbols} : Does files.readSymbols store disk symbols store' disk' ↔
    (∃ text, disk.read files.symbols = .ok (textBytes text) ∧ Symbols.ofText? text = some symbols) ∧
      store = store' ∧ disk = disk' := by
  rw [ModuleFiles.readSymbols, does_bind]
  simp only [does_adapt, does_readText]
  constructor
  · rintro ⟨text, _, _, ⟨found, rfl, rfl⟩, parsed⟩
    split at parsed
    · rename_i symbols' sound
      obtain ⟨rfl, rfl, rfl⟩ := does_pure.1 parsed
      exact ⟨⟨text, found, sound⟩, rfl, rfl⟩
    · exact absurd parsed does_throw
  · rintro ⟨⟨text, found, parsed⟩, rfl, rfl⟩
    refine ⟨text, _, _, ⟨found, rfl, rfl⟩, ?_⟩
    rw [parsed]
    exact does_pure.2 ⟨rfl, rfl, rfl⟩

/-- What loading a module does. -/
theorem does_load : Does files.load store disk module store' disk' ↔
    disk.Loads files module ∧ store = store' ∧ disk = disk' := by
  rw [ModuleFiles.load, does_bind]
  simp only [does_adapt, does_readFile]
  constructor
  · rintro ⟨bytes, _, _, ⟨found, rfl, rfl⟩, later⟩
    split at later
    · exact absurd later does_throw
    rename_i bare decoded
    obtain ⟨present, _, _, asked, later⟩ := does_bind.1 later
    obtain ⟨rfl, rfl, rfl⟩ := does_hasSymbols.1 asked
    split at later
    · obtain ⟨symbols, _, _, readSymbols, later⟩ := does_bind.1 later
      obtain ⟨⟨text, read, parsed⟩, rfl, rfl⟩ := does_readSymbols.1 readSymbols
      split at later
      · rename_i module' applied
        obtain ⟨rfl, rfl, rfl⟩ := does_pure.1 later
        exact ⟨.located found decoded read parsed applied, rfl, rfl⟩
      · exact absurd later does_throw
    · rename_i absent
      obtain ⟨rfl, rfl, rfl⟩ := does_pure.1 later
      exact ⟨.bare found decoded (Bool.not_eq_true _ ▸ absent), rfl, rfl⟩
  · rintro ⟨loads, rfl, rfl⟩
    cases loads with
    | bare found decoded absent =>
      refine ⟨_, _, _, ⟨found, rfl, rfl⟩, ?_⟩
      rw [decoded]
      refine does_bind.2 ⟨false, _, _, does_hasSymbols.2 ⟨absent, rfl, rfl⟩, ?_⟩
      exact does_pure.2 ⟨rfl, rfl, rfl⟩
    | located found decoded present parsed applied =>
      refine ⟨_, _, _, ⟨found, rfl, rfl⟩, ?_⟩
      rw [decoded]
      refine does_bind.2 ⟨true, _, _, does_hasSymbols.2 ⟨Disk.isFile_iff.2 ⟨_, present⟩, rfl, rfl⟩, ?_⟩
      refine does_bind.2 ⟨_, _, _, does_readSymbols.2 ⟨⟨_, present, parsed⟩, rfl, rfl⟩, ?_⟩
      rw [applied]
      exact does_pure.2 ⟨rfl, rfl, rfl⟩

theorem does_store : Does (files.store module) store disk () store' disk' ↔ disk.Stores files module disk' ∧
    store = store' := by
  rw [ModuleFiles.store, does_bind]
  simp only [does_adapt, does_writeFile]
  constructor
  · rintro ⟨-, _, between, ⟨binary, rfl⟩, symbols, rfl⟩
    exact ⟨⟨between, binary, symbols⟩, rfl⟩
  · rintro ⟨⟨between, binary, symbols⟩, rfl⟩
    exact ⟨(), store, between, ⟨binary, rfl⟩, symbols, rfl⟩

namespace Disk

theorem contents_eq_some {path : Path} {bytes : Bytes} :
    disk.contents path = some bytes ↔ disk.read path = .ok bytes := by
  unfold contents
  cases disk.read path <;> simp [Except.toOption]

theorem contents_eq_none {path : Path} : disk.contents path = none ↔ disk.isFile path = false := by
  unfold contents isFile
  cases disk.read path <;> simp [Except.toOption, Except.toBool]

theorem pair_eq_some {bytes bytes' : Bytes} :
    disk.pair files = (some bytes, some bytes') ↔ disk.Contains files bytes bytes' := by
  rw [pair, Prod.mk.injEq, contents_eq_some, contents_eq_some]
  exact ⟨fun both => ⟨both.1, both.2⟩, fun contains => ⟨contains.binary, contains.symbols⟩⟩

theorem Loads.unique {module' : Module} (loads : disk.Loads files module) (loads' : disk.Loads files module') :
    module = module' :=
  (Does.unique (does_load.2 ⟨loads, rfl, rfl⟩)
    (does_load.2 ⟨loads', rfl, rfl⟩ : Does files.load ⟨⟨""⟩, .empty, 0⟩ disk _ _ _)).1

/-- A module is loaded as before where its binary is untouched and its symbols are, or are not, still there. -/
theorem Loads.keep {touched : Place → Prop} (loads : disk.Loads files module) (changes : Changes touched disk disk')
    (binary : ¬ touched (disk.placeOf files.binary))
    (symbols : ∀ bytes, disk'.read files.symbols = .ok bytes ↔ disk.read files.symbols = .ok bytes) :
    disk'.Loads files module := by
  cases loads with
  | bare found decoded absent =>
    refine .bare (changes.read binary found) decoded ?_
    rw [← Bool.not_eq_true, isFile_iff] at absent ⊢
    simpa only [symbols] using absent
  | located found decoded present parsed applied =>
    exact .located (changes.read binary found) decoded ((symbols _).2 present) parsed applied

/-- What a module is loaded from does not depend on the disk it stands on. -/
theorem Loads.of_contains {bytes bytes' : Bytes} (loads : disk.Loads files module)
    (contains : disk.Contains files bytes bytes') (contains' : disk'.Contains files bytes bytes') :
    disk'.Loads files module := by
  cases loads with
  | bare _ _ absent =>
    rw [isFile_iff.2 ⟨_, contains.symbols⟩] at absent
    cases absent
  | located found decoded present parsed applied =>
    obtain rfl := Except.ok.inj (contains.binary.symm.trans found)
    obtain rfl := Except.ok.inj (contains.symbols.symm.trans present)
    exact .located contains'.binary decoded contains'.symbols parsed applied

theorem Loads.exists_contains (loads : disk.Loads files module) (present : disk.isFile files.symbols = true) :
    ∃ bytes bytes', disk.Contains files bytes bytes' := by
  cases loads with
  | bare _ _ absent =>
    rw [present] at absent
    cases absent
  | located found _ there _ _ => exact ⟨_, _, found, there⟩

/-- A binary stands nowhere where symbols do. -/
theorem Loads.place_ne {files' : ModuleFiles} {module' : Module} (loads : disk.Loads files module)
    (loads' : disk.Loads files' module') (present : disk.isFile files'.symbols = true) :
    disk.placeOf files.binary ≠ disk.placeOf files'.symbols := by
  cases loads' with
  | bare _ _ absent =>
    rw [present] at absent
    cases absent
  | located _ _ there parsed _ =>
    intro same
    have binary : ∃ bytes bare, disk.read files.binary = .ok bytes ∧ Module.decode bytes = .ok bare := by
      cases loads with
      | bare found decoded _ | located found decoded _ _ _ => exact ⟨_, _, found, decoded⟩
    obtain ⟨bytes, bare, found, decoded⟩ := binary
    have file := (read_eq_ok.1 found).2
    rw [same, (read_eq_ok.1 there).2] at file
    obtain rfl := Option.some.inj file
    rw [Symbols.ofText?_of_decode decoded] at parsed
    cases parsed

section Spared

variable {touched : Place → Prop} {between : Disk}

theorem Changes.holds (changes : Changes touched disk disk') (files : ModuleFiles) :
    disk'.Holds files = disk.Holds files := by
  funext place
  rw [Holds, Holds, changes.placeOf, changes.placeOf]

theorem Changes.spares (changes : Changes touched disk disk')
    (apart : ∀ place, disk.Holds files place → ¬ touched place) :
    disk.Spares files disk' :=
  changes.mono fun place touched held => apart place held touched

theorem Spares.trans (first : disk.Spares files between) (second : between.Spares files disk') :
    disk.Spares files disk' := by
  refine Changes.trans first (Changes.mono second fun place elsewhere => ?_)
  rwa [← Changes.holds first]

theorem Contains.spared {bytes bytes' : Bytes} (contains : disk.Contains files bytes bytes')
    (spares : disk.Spares files disk') :
    disk'.Contains files bytes bytes' :=
  ⟨Changes.read spares (not_not_intro (Or.inl rfl)) contains.binary,
    Changes.read spares (not_not_intro (Or.inr rfl)) contains.symbols⟩

theorem Prepared.changes (prepared : disk.Prepared files)
    (changes : Changes touched disk disk') : disk'.Prepared files :=
  ⟨changes.ready prepared.1, changes.ready prepared.2⟩

/-- A module whose symbols have stood, or not, at a settled place since the disk was sound. -/
theorem Loads.spared (loads : between.Loads files module) (sound : disk.Sound) (settled : disk.Settled files.symbols)
    (before : disk.Spares files between) (after : between.Spares files disk') : disk'.Loads files module := by
  refine loads.keep after (not_not_intro (Or.inl rfl)) fun bytes => ?_
  rw [Changes.read_iff (before.trans after) sound settled (not_not_intro (Or.inr rfl)),
    Changes.read_iff before sound settled (not_not_intro (Or.inr rfl))]

end Spared

namespace Stores

theorem changes (stores : disk.Stores files module disk') : Changes (disk.Holds files) disk disk' := by
  obtain ⟨between, binary, symbols⟩ := stores
  have first := binary.changes.mono fun _ => (Or.inl : _ → disk.Holds files _)
  refine first.trans (symbols.changes.mono fun place same => Or.inr ?_)
  rw [same, first.placeOf]

theorem bears (stores : disk.Stores files module disk')
    (own : disk.placeOf files.binary ≠ disk.placeOf files.symbols) :
    disk'.Bears files module := by
  obtain ⟨between, binary, symbols⟩ := stores
  refine ⟨symbols.changes.read ?_ binary.read, symbols.read⟩
  rw [binary.changes.placeOf, binary.changes.placeOf]
  exact own

/-- A module can be stored where its files are already. -/
theorem of_prepared {bytes bytes' : Bytes} (prepared : disk.Prepared files)
    (contains : disk.Contains files bytes bytes')
    (own : disk.placeOf files.binary ≠ disk.placeOf files.symbols) (module : Module) :
    ∃ disk', disk.Stores files module disk' := by
  obtain ⟨between, first⟩ := Writes.of_ready prepared.1 contains.binary module.encode
  have symbols := first.changes.read own.symm contains.symbols
  obtain ⟨disk', second⟩ := Writes.of_ready (first.changes.ready prepared.2) symbols (textBytes module.symbols.text)
  exact ⟨disk', between, first, second⟩

theorem prepared (stores : disk.Stores files module disk') : disk'.Prepared files := by
  obtain ⟨between, binary, symbols⟩ := stores
  exact ⟨symbols.changes.ready binary.ready, symbols.ready⟩

end Stores

/-- What was stored for a module is loaded as the module, its jump targets wrapped around. -/
theorem Bears.loads (bears : disk.Bears files module) (fits : module.wrapped.Fits)
    (distinct : (module.methods.map Method.qualifiedName).Nodup) : disk.Loads files module.wrapped := by
  refine .located bears.binary (Module.decode_encode_wrapped fits) bears.symbols (Symbols.ofText?_text _) ?_
  rw [← Module.qualifiedNames_wrapped] at distinct
  rw [← Module.symbols_wrapped]
  exact Module.symbols_applyTo_bare distinct

/-- What was stored for a module that fits the format is loaded as the module. -/
theorem Bears.loads_fitting (bears : disk.Bears files module) (fits : module.Fits)
    (distinct : (module.methods.map Method.qualifiedName).Nodup) : disk.Loads files module := by
  exact .located bears.binary (Module.decode_of_fits fits) bears.symbols (Symbols.ofText?_text _)
    (Module.symbols_applyTo_bare distinct)

end Disk

/-- A stored module is loaded as it was, every location and site included, as long as its two files are left alone. -/
theorem ModuleFiles.load_stored {later : SnapshotStore} {disk'' : Disk} (fits : module.Fits)
    (distinct : (module.methods.map Method.qualifiedName).Nodup)
    (own : disk.placeOf files.binary ≠ disk.placeOf files.symbols)
    (stored : Does (files.store module) store disk () store' disk') (spares : disk'.Spares files disk'') :
    Does files.load later disk'' module later disk'' := by
  have bears : disk'.Bears files module := (does_store.1 stored).1.bears own
  exact does_load.2 ⟨Disk.Bears.loads_fitting (bears.spared spares) fits distinct, rfl, rfl⟩

/-- The module with an operand of every shape, one of its instructions generated. -/
def patchedKitchen : Module :=
  { kitchenModule with methods := kitchenModule.methods.map (·.mapCode (·.push (.hidden .pop "k"))) }

def kitchenFiles : ModuleFiles := ⟨⟨"k.ivm"⟩, ⟨"k.isym"⟩⟩

/-- A disk that has other files of these names. -/
def kitchenDisk : Disk := ⟨.ofList [(["k.ivm"], .file []), (["k.isym"], .file [])], []⟩

/-- A module with every kind of instruction, stored and loaded again. -/
theorem ModuleFiles.load_stored_kitchen : ∃ disk',
    Does (kitchenFiles.store patchedKitchen) ⟨⟨"bk"⟩, .empty, 0⟩ kitchenDisk ()
      ⟨⟨"bk"⟩, .empty, 0⟩ disk' ∧
    Does kitchenFiles.load ⟨⟨"bk"⟩, .empty, 0⟩ disk' patchedKitchen ⟨⟨"bk"⟩, .empty, 0⟩ disk' := by
  have top : ∀ path ∈ [kitchenFiles.binary, kitchenFiles.symbols], kitchenDisk.start path.folder = [] ∧
      path.folder.steps = ["."] := by
    with_unfolding_all decide
  have ready : ∀ path ∈ [kitchenFiles.binary, kitchenFiles.symbols], kitchenDisk.Ready path := fun path member =>
    .of_top (top path member).1 (top path member).2
  have contains : kitchenDisk.Contains kitchenFiles [] [] :=
    ⟨by with_unfolding_all decide, by with_unfolding_all decide⟩
  have own : kitchenDisk.placeOf kitchenFiles.binary ≠ kitchenDisk.placeOf kitchenFiles.symbols := by
    with_unfolding_all decide
  have prepared : kitchenDisk.Prepared kitchenFiles :=
    ⟨ready _ List.mem_cons_self, ready _ (List.mem_cons_of_mem _ List.mem_cons_self)⟩
  obtain ⟨disk', stores⟩ := Disk.Stores.of_prepared prepared contains own patchedKitchen
  have stored : Does (kitchenFiles.store patchedKitchen) ⟨⟨"bk"⟩, .empty, 0⟩ kitchenDisk ()
      ⟨⟨"bk"⟩, .empty, 0⟩ disk' :=
    does_store.2 ⟨stores, rfl⟩
  exact ⟨disk', stored, ModuleFiles.load_stored (by decide) (by decide) own stored (Disk.Changes.refl _)⟩

end Faultline
