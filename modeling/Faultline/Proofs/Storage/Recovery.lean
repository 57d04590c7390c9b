import Faultline.Proofs.Storage.Failures
import Faultline.Proofs.Storage.Reopening

namespace Faultline

variable {store store' : SnapshotStore} {disk disk' between : Disk} {files : ModuleFiles} {path other : Path}
  {place : Place} {name id : String} {bytes : Bytes} {symbols : Option Bytes} {entry : SnapshotEntry}

namespace Disk

/-! Where files can be put. -/

theorem follow_congr (nodes : ∀ place, disk'.node? place = disk.node? place) (place : Place) (names : List String) :
    disk'.follow place names = disk.follow place names := by
  induction names generalizing place with
  | nil => rfl
  | cons name names ih => simp only [follow, nodes, ih]

theorem read_congr (nodes : ∀ place, disk'.node? place = disk.node? place)
    (home : disk'.workingFolder = disk.workingFolder) (path : Path) : disk'.read path = disk.read path := by
  simp only [Disk.read, locate, start, home, follow_congr nodes, nodes]

/-- What cannot be read cannot be removed, for the same reason. -/
theorem remove_of_read_error {fault : Fault} (refused : disk.read path = .error fault) :
    disk.remove path = .error fault := by
  unfold Disk.read at refused
  unfold remove
  cases located : disk.locate path with
  | error fault =>
    rw [located] at refused
    cases refused
    rfl
  | ok place =>
    rw [located] at refused
    simp only [bind, Except.bind] at refused ⊢
    split at refused <;> simp_all

/-- A file can be put at the path: what leads to it is there, and no folder is in its place. -/
structure Writable (disk : Disk) (path : Path) : Prop where
  reaches : disk.Reaches path
  free : disk.node? (disk.placeOf path) ≠ some .folder

theorem Writable.of_read (found : disk.read path = .ok bytes) : disk.Writable path := by
  obtain ⟨reaches, file⟩ := read_eq_ok.1 found
  refine ⟨reaches, ?_⟩
  rw [file?_eq_some.1 file]
  exact nofun

theorem Writable.writes (writable : disk.Writable path) (bytes : Bytes) : ∃ disk', disk.Writes path bytes disk' :=
  ⟨_, .of_reaches (writable.reaches.ready writable.free) writable.reaches writable.free bytes⟩

/-- A place that can be written to still can after another file was written. -/
theorem Writable.later (writable : disk.Writable path) (first : disk.Writable other)
    (writes : disk.Writes other bytes disk') :
    disk'.Writable path := by
  have changes := writes.changes
  have below : disk.placeOf other ≠ [] := fun top => first.free (top ▸ node?_nil)
  refine ⟨changes.reaches writable.reaches, ?_⟩
  rw [changes.placeOf, writes.eq_put first.reaches, node?_put below]
  split
  · exact nofun
  · exact writable.free

/-- Where a file can be put there is one, or nothing is found. -/
theorem Writable.read (writable : disk.Writable path) :
    disk.isFile path = true ∨ disk.read path = .error .notFound := by
  cases there : disk.node? (disk.placeOf path) with
  | none => exact Or.inr (read_eq_notFound writable.reaches there)
  | some node =>
    cases node with
    | folder => exact absurd there writable.free
    | file bytes => exact Or.inl (isFile_iff.2 ⟨bytes, read_eq_ok.2 ⟨writable.reaches, file?_eq_some.2 there⟩⟩)

/-- To write what is there already changes nothing that can be seen. -/
theorem Writes.read_eq (writes : disk.Writes path bytes disk') (found : disk.read path = .ok bytes) (other : Path) :
    disk'.read other = disk.read other := by
  obtain ⟨reaches, file⟩ := read_eq_ok.1 found
  have node := file?_eq_some.1 file
  have below : disk.placeOf path ≠ [] := fun top => writes.not_folder (top ▸ node?_nil)
  have put := writes.eq_put reaches
  refine read_congr (fun place => ?_) writes.changes.workingFolder other
  rw [put, node?_put below]
  split
  · rename_i same
    rw [same, node]
  · rfl

theorem Object.unique {bytes' : Bytes} (object : disk.Object store id bytes)
    (object' : disk.Object store id bytes') : bytes = bytes' :=
  Except.ok.inj (object.1.symm.trans object'.1)

end Disk

namespace SnapshotStore

/-! Restores of what is recalled. -/

/-- A restore of a backup without symbols, where there is none to remove or one that can be. -/
theorem does_restore_alone {store₀ : SnapshotStore} (recorded : store₀.entryOf? name = some ⟨id, none⟩)
    (binary : disk.Object store₀ id bytes) (first : disk.Writes files.binary bytes between)
    (gone : between.isFile files.symbols = true ∨ between.read files.symbols = .error .notFound) :
    ∃ disk', Does (store₀.restore name files) store disk () store disk' := by
  rw [restore, recorded]
  obtain ⟨outcome, disk', removed, ends⟩ : ∃ outcome disk',
      Does (removeFile files.symbols : ExceptT FileError (Work SnapshotError) Unit).run store between
      outcome store disk' ∧
        (outcome = .ok () ∨ outcome = .error ⟨files.symbols, .notFound⟩) := by
    obtain present | absent := gone
    · have removed := Disk.remove_eq_ok.2 ⟨present, rfl⟩
      exact ⟨_, _, does_removeFile_iff.2 ⟨rfl, rfl, rfl⟩, Or.inl (by rw [removed]; rfl)⟩
    · have refused := Disk.remove_of_read_error absent
      exact ⟨_, _, does_removeFile_iff.2 ⟨rfl, rfl, rfl⟩, Or.inr (by rw [refused]; rfl)⟩
  refine ⟨disk', does_bind.2 ⟨bytes, store, disk, does_object.2 ⟨binary, rfl, rfl⟩, ?_⟩⟩
  refine does_bind.2 ⟨(), store, between, does_adapt.2 (does_writeFile.2 ⟨first, rfl⟩), ?_⟩
  refine does_bind.2 ⟨outcome, store, disk', removed, ?_⟩
  obtain rfl | rfl := ends <;> exact does_pure.2 ⟨rfl, rfl, rfl⟩

namespace Recalls

theorem changes {touched : Place → Prop} (recalls : store.Recalls disk name bytes symbols)
    (changes : Disk.Changes touched disk disk')
    (untouched : ∀ id, ¬ touched (disk.placeOf store.root ++ ["objects", id])) :
    store.Recalls disk' name bytes symbols :=
  ⟨recalls.recorded, recalls.binary.changes changes (untouched _),
    fun bytes' member => (recalls.symbols bytes' member).changes changes (untouched _)⟩

/-- The binary that a restore writes is none of the objects. -/
theorem written {content : Bytes} (recalls : store.Recalls disk name bytes symbols)
    (outside : ∀ place, disk.Holds files place → ¬ disk.Stored store.root place)
    (first : disk.Writes files.binary content between) :
    store.Recalls between name bytes symbols :=
  recalls.changes first.changes fun id same => outside _ (Or.inl rfl) (same ▸ disk.stored_object store.root id)

/-- What is recalled is restored, once the binary can be written and the symbols can be written or are gone. -/
theorem does_restore (recalls : store.Recalls disk name bytes symbols)
    (first : disk.Writes files.binary bytes between)
    (outside : ∀ place, disk.Holds files place → ¬ disk.Stored store.root place)
    (second : ∀ bytes' ∈ symbols, ∃ disk', between.Writes files.symbols bytes' disk')
    (gone : symbols = none → between.isFile files.symbols = true ∨ between.read files.symbols = .error .notFound) :
    ∃ disk', Does (store.restore name files) store disk () store disk' := by
  have later := recalls.written outside first
  cases symbols with
  | none => exact does_restore_alone recalls.recorded recalls.binary first (gone rfl)
  | some bytes' =>
    obtain ⟨disk', second⟩ := second bytes' rfl
    exact ⟨disk', does_restore_both recalls.recorded recalls.binary first (later.symbols bytes' rfl) second⟩

/-- A restore writes what is recalled. -/
theorem restores_cases (recalls : store.Recalls disk name bytes symbols)
    (outside : ∀ place, disk.Holds files place → ¬ disk.Stored store.root place)
    (restores : store.Restores name files disk disk') :
    ∃ between, disk.Writes files.binary bytes between ∧
      ((∃ bytes', symbols = some bytes' ∧ between.Writes files.symbols bytes' disk') ∨
        symbols = none ∧ (between.remove files.symbols = .ok disk' ∨ between.isFile files.symbols = false ∧
          between = disk')) := by
  cases restores with
  | @both id id' held held' between recorded binary first object second =>
    have same := recalls.recorded.symm.trans recorded
    rw [Option.some.injEq, SnapshotEntry.mk.injEq, Option.map_eq_some_iff] at same
    obtain ⟨rfl, bytes', rfl, rfl⟩ := same
    obtain rfl := recalls.binary.unique binary
    obtain rfl := ((recalls.written outside first).symbols bytes' rfl).unique object
    exact ⟨between, first, Or.inl ⟨bytes', rfl, second⟩⟩
  | @alone id held between recorded binary first gone =>
    have same := recalls.recorded.symm.trans recorded
    rw [Option.some.injEq, SnapshotEntry.mk.injEq, Option.map_eq_none_iff] at same
    obtain ⟨rfl, rfl⟩ := same
    obtain rfl := recalls.binary.unique binary
    exact ⟨between, first, Or.inr ⟨rfl, gone⟩⟩

/-- What is recalled is what the files hold after a restore, and there are no symbols if there were none. -/
theorem pair_of_restores (recalls : store.Recalls disk name bytes symbols)
    (outside : ∀ place, disk.Holds files place → ¬ disk.Stored store.root place)
    (apart : disk.placeOf files.binary = disk.placeOf files.symbols → symbols = some bytes)
    (restores : store.Restores name files disk disk') : disk'.pair files = (some bytes, symbols) := by
  obtain ⟨between, first, ⟨bytes', rfl, second⟩ | ⟨rfl, gone⟩⟩ := recalls.restores_cases outside restores
  · rw [Disk.pair_eq_some]
    refine ⟨?_, second.read⟩
    by_cases own : disk.placeOf files.binary = disk.placeOf files.symbols
    · -- both paths lead to one place, where the symbols are the same as the binary
      obtain rfl := Option.some.inj (apart own)
      refine Disk.read_eq_ok.2 ⟨second.changes.reaches first.reaches, ?_⟩
      rw [second.changes.placeOf, first.changes.placeOf, own, ← first.changes.placeOf, ← second.changes.placeOf]
      exact (Disk.read_eq_ok.1 second.read).2
    · refine second.changes.read ?_ first.read
      rwa [first.changes.placeOf, first.changes.placeOf]
  · have own : disk.placeOf files.binary ≠ disk.placeOf files.symbols := fun same => by cases apart same
    have whole : disk'.read files.binary = .ok bytes ∧ disk'.isFile files.symbols = false := by
      obtain removed | ⟨absent, rfl⟩ := gone
      · refine ⟨(Disk.Changes.remove removed).read ?_ first.read, ?_⟩
        · rwa [first.changes.placeOf, first.changes.placeOf]
        · rw [Bool.eq_false_iff, Ne, Disk.isFile_iff]
          rintro ⟨bytes', found⟩
          have file := (Disk.read_eq_ok.1 found).2
          rw [(Disk.Changes.remove removed).placeOf, Disk.file?_of_removed removed] at file
          cases file
      · exact ⟨first.read, absent⟩
    rw [Disk.pair, Disk.contents_eq_some.2 whole.1, Disk.contents_eq_none.2 whole.2]

/-- To restore what the files hold already changes nothing that can be seen. -/
theorem read_of_restores (recalls : store.Recalls disk name bytes symbols)
    (pair : disk.pair files = (some bytes, symbols))
    (outside : ∀ place, disk.Holds files place → ¬ disk.Stored store.root place)
    (restores : store.Restores name files disk disk') (other : Path) : disk'.read other = disk.read other := by
  obtain ⟨binary, held⟩ := Prod.mk.inj pair
  obtain ⟨between, first, last⟩ := recalls.restores_cases outside restores
  have unchanged := first.read_eq (Disk.contents_eq_some.1 binary)
  obtain ⟨bytes', rfl, second⟩ | ⟨rfl, removed | ⟨-, rfl⟩⟩ := last
  · have found : between.read files.symbols = .ok bytes' := (unchanged _).trans (Disk.contents_eq_some.1 held)
    exact (second.read_eq found other).trans (unchanged other)
  · obtain ⟨bytes', found⟩ := Disk.isFile_iff.1 (Disk.remove_eq_ok.1 removed).1
    rw [unchanged, ← Disk.contents_eq_some, held] at found
    cases found
  · exact unchanged other

end Recalls

/-! Restores of what is damaged. -/

/-- After a backup the object of the binary is there. -/
theorem Backs.found (backs : store.Backs disk name files entry store' disk') :
    ∃ found, disk'.read (store'.objectPath entry.binary) = .ok found := by
  obtain ⟨store₁, disk₁, store₂, disk₂, binary, symbols, recorded⟩ := backs
  have isName := binary.isName
  obtain ⟨found, there⟩ := binary.found
  refine ⟨found, recorded.reads isName ?_⟩
  obtain ⟨-, -, rfl, rfl⟩ | ⟨id, -, -, kept⟩ := symbols
  · exact there
  · exact kept.reads isName there

theorem fails_object {store₀ : SnapshotStore} {found : Bytes} (read : disk.read (store₀.objectPath id) = .ok found)
    (damaged : objectId found ≠ id) : Fails (store₀.object id) store disk (.corrupt id) store disk :=
  fails_object_iff.2 ⟨.damaged read damaged, rfl, rfl⟩

/-- A damaged object is noticed when it is to be restored, and not before. -/
theorem fails_restore {found : Bytes} (recorded : store.entryOf? name = some entry)
    (writable : disk.Writable files.binary)
    (outside : ∀ place, disk.Holds files place → ¬ disk.Stored store.root place)
    (binary : ∃ found, disk.read (store.objectPath entry.binary) = .ok found) (isName : Path.IsName id)
    (named : id = entry.binary ∨ entry.symbols = some id) (read : disk.read (store.objectPath id) = .ok found)
    (damaged : objectId found ≠ id) : ∃ id disk',
    Fails (store.restore name files) store disk (.corrupt id) store disk' := by
  rw [restore, recorded]
  obtain ⟨first, readFirst⟩ := binary
  by_cases intact : objectId first = entry.binary
  · obtain rfl | symbols := named
    · rw [Except.ok.inj (read.symm.trans readFirst)] at damaged
      exact absurd intact damaged
    obtain ⟨between, written⟩ := writable.writes first
    have still : between.read (store.objectPath id) = .ok found := by
      refine written.changes.read (fun same => outside _ (Or.inl rfl) ?_) read
      rw [← same, placeOf_objectPath disk store isName]
      exact disk.stored_object store.root id
    refine ⟨id, between,
      fails_bind.2 (Or.inr ⟨first, store, disk, does_object.2 ⟨⟨readFirst, intact⟩, rfl, rfl⟩, ?_⟩)⟩
    refine fails_bind.2 (Or.inr ⟨(), store, between, does_adapt.2 (does_writeFile.2 ⟨written, rfl⟩), ?_⟩)
    rw [symbols]
    exact fails_bind.2 (Or.inl (fails_object still damaged))
  · exact ⟨entry.binary, disk, fails_bind.2 (Or.inl (fails_object readFirst intact))⟩

/-- The contents that a backup keeps. -/
def together (bytes : Bytes) (symbols : Option Bytes) : Set Bytes := { content | content = bytes ∨ content ∈ symbols }

/-- A backup names the objects for the contents of the module's files. Unless one of them was there before and
holds something else, they hold just these contents, and a restore at once brings the files back as they are.
One that was there stays as it is: if it is damaged, then the backup is made all the same and cannot be
restored. -/
theorem backup_recovers (does : Does (backup name files) store disk entry store' disk')
    (outside : ∀ place, disk.Holds files place → ¬ disk.Stored store.root place) :
    ∃ bytes symbols, disk'.pair files = (some bytes, symbols) ∧ entry = ⟨objectId bytes, symbols.map objectId⟩ ∧
      (Set.InjOn objectId (together bytes symbols) → store.Genuine disk (together bytes symbols) →
        (disk'.read (store'.objectPath entry.binary) = .ok bytes ∧
          ∀ bytes' ∈ symbols, disk'.read (store'.objectPath (objectId bytes')) = .ok bytes') ∧
        ((symbols = none → disk'.read files.symbols = .error .notFound) →
          ∃ later, Does (store'.restore name files) store' disk' () store' later ∧
          later.pair files = (some bytes, symbols))) ∧
      ∀ id found, id = entry.binary ∨ entry.symbols = some id → disk.read (store.objectPath id) = .ok found →
        objectId found ≠ id →
        disk'.read (store'.objectPath id) = .ok found ∧
          ∃ id later, Fails (store'.restore name files) store' disk' (.corrupt id) store' later := by
  have backs := does_backup.1 does
  obtain ⟨bytes, symbols, pair, rfl⟩ := backs.entry_eq outside
  obtain ⟨binary, held⟩ := Prod.mk.inj pair
  have changes := backs.changes_stored
  have outside' : ∀ place, disk'.Holds files place → ¬ disk'.Stored store'.root place := by
    rw [changes.holds, changes.stored, backs.root]
    exact outside
  have found := Disk.contents_eq_some.1 binary
  refine ⟨bytes, symbols, pair, rfl, fun digests genuine => ?_, fun id content named read damaged => ?_⟩
  · have recalls := (backs.recalls genuine digests pair (Or.inl rfl) (fun _ => Or.inr) outside).1
    refine ⟨⟨recalls.binary.1, fun bytes' member => (recalls.symbols bytes' member).1⟩, fun absent => ?_⟩
    obtain ⟨between, first⟩ := (Disk.Writable.of_read found).writes bytes
    have unchanged := first.read_eq found
    have second : ∀ bytes' ∈ symbols, ∃ later, between.Writes files.symbols bytes' later := fun bytes' member => by
      have found' : between.read files.symbols = .ok bytes' := by
        rw [unchanged, ← Disk.contents_eq_some, held, member]
      exact (Disk.Writable.of_read found').writes bytes'
    obtain ⟨later, restored⟩ := recalls.does_restore first outside' second fun none =>
      Or.inr ((unchanged _).trans (absent none))
    have same := recalls.read_of_restores pair outside' (SnapshotStore.does_restore restored).1
    exact ⟨later, restored, by rw [Disk.pair, Disk.contents, Disk.contents, same, same, ← pair]; rfl⟩
  · have isName : Path.IsName id := by
      obtain rfl | named := named
      · exact isName_objectId _
      · obtain ⟨bytes', -, rfl⟩ := Option.map_eq_some_iff.1 named
        exact isName_objectId _
    have still := backs.reads isName read
    exact ⟨still, fails_restore backs.entered (.of_read found) outside' backs.found isName named still damaged⟩

/-! Two disks: one with a module's files, and one with an object that is not what its name says. -/

def letterFiles : ModuleFiles := ⟨⟨"A.ivm"⟩, ⟨"A.isym"⟩⟩

def letterStore : SnapshotStore := ⟨⟨"bk"⟩, .empty, 0⟩

def letterDisk : Disk where
  nodes := .ofList [(["A.ivm"], .file (textBytes "A")), (["A.isym"], .file (textBytes "S"))]
  workingFolder := []

/-- The object is named for the binary. -/
def damagedDisk : Disk where
  nodes := .ofList [(["A.ivm"], .file (textBytes "A")), (["bk"], .folder), (["bk", "objects"], .folder),
    (["bk", "objects", "32684bfa28c0c84d6f210511aace0efc5171c7889148ba89208d5aa29705fa98"],
      .file (textBytes "damaged"))]
  workingFolder := []

theorem letterFiles_places (top : disk.workingFolder = []) : disk.placeOf letterFiles.binary = ["A.ivm"] ∧
    disk.placeOf letterFiles.symbols = ["A.isym"] ∧ disk.placeOf letterStore.root = ["bk"] := by
  simp only [Disk.placeOf, Disk.start, top]
  with_unfolding_all decide

theorem letterFiles_outside (top : disk.workingFolder = []) :
    ∀ place, disk.Holds letterFiles place → ¬ disk.Stored letterStore.root place := by
  rintro _ (rfl | rfl) <;> simp [Disk.Stored, letterFiles_places top]

/-- The backup of a binary "A" with the symbols "S". -/
theorem letterDisk_backs : ∃ store' disk',
    Does (backup "A" letterFiles) letterStore letterDisk
      ⟨objectId (textBytes "A"), some (objectId (textBytes "S"))⟩ store' disk' ∧
      disk'.pair letterFiles = (some (textBytes "A"), some (textBytes "S")) := by
  obtain ⟨store', disk', does⟩ : ∃ store' disk',
      Does (backup "A" letterFiles) letterStore letterDisk
      ⟨objectId (textBytes "A"), some (objectId (textBytes "S"))⟩ store' disk' := by
    refine ⟨_, _, does_of_toOption ?_⟩
    decide +kernel
  have changes := (does_backup.1 does).changes_stored
  have outside := letterFiles_outside (rfl : letterDisk.workingFolder = [])
  refine ⟨store', disk', does,
    Disk.pair_eq_some.2 ⟨changes.read (outside _ (Or.inl rfl)) ?_, changes.read (outside _ (Or.inr rfl)) ?_⟩⟩ <;>
    with_unfolding_all decide

theorem letter_digests :
    objectId (textBytes "A") = "32684bfa28c0c84d6f210511aace0efc5171c7889148ba89208d5aa29705fa98" ∧
    objectId (textBytes "S") = "808a23433c7626ea4ef55f52a21d5243852c1264892eb80d3635b81625a63b77" ∧
    objectId (textBytes "damaged") = "1edaff300ed3affdde799aa5903be746478016b455846bfd6b08c4474f7fe70d" := by
  decide +kernel

/-- The two letters have different digests. -/
theorem letterDisk_distinct : Set.InjOn objectId (together (textBytes "A") (some (textBytes "S"))) := by
  have distinct : objectId (textBytes "A") ≠ objectId (textBytes "S") := by
    rw [letter_digests.1, letter_digests.2.1]
    decide
  rintro _ (rfl | here) _ (rfl | there) same
  · rfl
  · obtain rfl := Option.some.inj there
    exact absurd same distinct
  · obtain rfl := Option.some.inj here
    exact absurd same.symm distinct
  · exact Option.some.inj (here.symm.trans there)

theorem letterDisk_genuine (contents : Set Bytes) : letterStore.Genuine letterDisk contents := by
  intro bytes _ found file
  have place : letterDisk.placeOf letterStore.root = ["bk"] := by with_unfolding_all decide
  have below : ["bk"] <+: letterDisk.placeOf letterStore.root ++ ["objects", objectId bytes] := by
    rw [place]
    exact List.prefix_append _ _
  rw [Disk.file?_eq_none_of_entries (by decide) below] at file
  cases file

def damagedEntry : SnapshotEntry := ⟨"32684bfa28c0c84d6f210511aace0efc5171c7889148ba89208d5aa29705fa98", none⟩

theorem damagedDisk_read : damagedDisk.read letterFiles.binary = .ok (textBytes "A") ∧
    damagedDisk.read (letterStore.objectPath damagedEntry.binary) = .ok (textBytes "damaged") ∧
      objectId (textBytes "damaged") ≠ damagedEntry.binary := by
  refine ⟨by with_unfolding_all decide, by with_unfolding_all decide, ?_⟩
  rw [letter_digests.2.2]
  decide

/-- The object is there, and only the index is written. -/
theorem damagedDisk_backs : ∃ store' disk',
    Does (backup "A" letterFiles) letterStore damagedDisk damagedEntry store' disk' := by
  obtain ⟨binary, read, -⟩ := damagedDisk_read
  have absent : damagedDisk.isFile letterFiles.symbols = false := by with_unfolding_all decide
  obtain ⟨place, walks⟩ : damagedDisk.placeOf letterStore.root = ["bk"] ∧
    _ := Disk.walks_name rfl ⟨by decide, by decide, by decide⟩
  have index : damagedDisk.Writable (indexPath letterStore.root) := by
    refine ⟨(Disk.reaches_join _ ⟨by decide, by decide, by decide⟩).2 ⟨walks, ?_⟩, ?_⟩
    · rw [place]
      rfl
    · rw [placeOf_indexPath, place]
      decide
  obtain ⟨disk', put⟩ := index.writes _
  have kept : letterStore.Keeps damagedDisk letterFiles.binary damagedEntry.binary letterStore damagedDisk :=
    ⟨_, binary, letter_digests.1, Or.inl ⟨Disk.isFile_iff.2 ⟨_, read⟩, rfl, rfl⟩⟩
  exact ⟨_, disk', does_backup.2 ⟨_, _, _, _, kept, Or.inl ⟨rfl, absent, rfl, rfl⟩, Or.inr ⟨nofun, put, rfl⟩⟩⟩

/-- A sound store, and one with a damaged object under the digest of the binary. -/
theorem backup_recovers_letters :
    (∃ store' disk' later, Does (backup "A" letterFiles) letterStore letterDisk
        ⟨objectId (textBytes "A"), some (objectId (textBytes "S"))⟩ store' disk' ∧
      Does (store'.restore "A" letterFiles) store' disk' () store' later ∧
        later.pair letterFiles = (some (textBytes "A"), some (textBytes "S"))) ∧
    ∃ store' disk' id later, Does (backup "A" letterFiles) letterStore damagedDisk damagedEntry store' disk' ∧
      Fails (store'.restore "A" letterFiles) store' disk' (.corrupt id) store' later := by
  constructor
  · obtain ⟨store', disk', does, pair⟩ := letterDisk_backs
    obtain ⟨bytes, symbols, pair', -, recovers, -⟩ := backup_recovers does (letterFiles_outside rfl)
    obtain ⟨rfl, rfl⟩ : textBytes "A" = bytes ∧ some (textBytes "S") = symbols := by
      obtain ⟨binary, held⟩ := Prod.mk.inj (pair.symm.trans pair')
      exact ⟨Option.some.inj binary, held⟩
    obtain ⟨later, restored, same⟩ := (recovers letterDisk_distinct (letterDisk_genuine _)).2 nofun
    exact ⟨store', disk', later, does, restored, same⟩
  · obtain ⟨store', disk', does⟩ := damagedDisk_backs
    obtain ⟨-, read, damaged⟩ := damagedDisk_read
    obtain ⟨_, _, -, -, -, corrupt⟩ := backup_recovers does (letterFiles_outside rfl)
    obtain ⟨-, id, later, fails⟩ := corrupt _ _ (Or.inl rfl) read damaged
    exact ⟨store', disk', id, later, does, fails⟩

/-- A store just opened takes a damaged object for the backup of the binary. It reports the backup as made,
and yet the object still holds something else, and the binary cannot be restored. -/
theorem backup_unrecoverable : damagedDisk.Opens ⟨"bk"⟩ letterStore ∧ ∃ entry store' disk',
    Does (backup "A" letterFiles) letterStore damagedDisk entry store' disk' ∧
      disk'.read letterFiles.binary = .ok (textBytes "A") ∧
      disk'.read (store'.objectPath entry.binary) = .ok (textBytes "damaged") ∧
      ∃ later, Fails (store'.restore "A" letterFiles) store' disk' (.corrupt entry.binary) store' later := by
  obtain ⟨store', disk', does⟩ := damagedDisk_backs
  obtain ⟨binary, read, damaged⟩ := damagedDisk_read
  have backs := does_backup.1 does
  have still := backs.reads ⟨by decide, by decide, by decide⟩ read
  refine ⟨Disk.opens_iff.2 ⟨.empty, rfl, Or.inr ⟨by with_unfolding_all decide, rfl⟩⟩, damagedEntry, store',
    disk', does, ?_, still, disk', ?_⟩
  · exact backs.changes_stored.read (letterFiles_outside rfl _ (Or.inl rfl)) binary
  · rw [restore, backs.entered]
    exact fails_bind.2 (Or.inl (fails_object still damaged))

end SnapshotStore

end Faultline
