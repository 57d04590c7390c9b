import Mathlib.Tactic.FinCases
import Faultline.Code.Symbols
import Faultline.Proofs.Text.Json
import Faultline.Proofs.Code.Wrapping

namespace Faultline

/-! What symbols are written as is read as the symbols. -/

theorem mapM_map_eq_some {α β : Type} {read : β → Option α} {write : α → β} (items : List α)
    (back : ∀ item ∈ items, read (write item) = some item) : (items.map write).mapM read = some items := by
  induction items with
  | nil => rfl
  | cons first rest ih =>
    rw [List.map_cons, List.mapM_cons, back first (List.mem_cons_self ..),
      ih fun item member => back item (List.mem_cons_of_mem _ member)]
    rfl

theorem Json.word?_integer (n : UInt32) : Json.word? (.integer n.toNat) = some n := by
  have small : (n.toNat : Int) ≤ 0xFFFFFFFF := by
    have := n.toNat_lt
    omega
  simp [word?, natural?, small]

theorem Location.ofJson?_toJson (location : Location) : Location.ofJson? location.toJson = some location := by
  simp [ofJson?, toJson, Json.required?, Json.fields?, namedFields?, Json.word?_integer, Json.text?]

theorem ValueType.ofJson?_toJson (type : ValueType) : ValueType.ofJson? type.toJson = some type := by
  cases type with
  | object className => rfl
  | _ => decide

theorem Site.ofJson?_toJson (site : Site) : Site.ofJson? site.toJson = some site := by
  simp [ofJson?, toJson, Json.required?, Json.fields?, namedFields?, Json.word?_integer, Json.text?,
    Location.ofJson?_toJson, ValueType.ofJson?_toJson]

/-- An entry of the symbol file is read back from its own JSON. -/
theorem MethodSymbols.ofJson?_toJson (entry : MethodSymbols) : MethodSymbols.ofJson? entry.toJson = some entry := by
  have locations : (entry.locations.map fun location => location.elim .null Location.toJson).mapM
      (Json.optional? Location.ofJson?) = some entry.locations := by
    refine mapM_map_eq_some entry.locations fun location _ => ?_
    cases location with
    | none => rfl
    | some location =>
      have read : (Location.ofJson? location.toJson).map some = some (some location) := by
        rw [Location.ofJson?_toJson, Option.map_some]
      exact read
  simp [ofJson?, toJson, Json.required?, Json.fields?, namedFields?, Json.text?, Json.list?, locations]

theorem Symbols.ofJson?_toJson (symbols : Symbols) : Symbols.ofJson? symbols.toJson = some symbols := by
  have methods := mapM_map_eq_some symbols.methods fun entry _ => entry.ofJson?_toJson
  have sites := mapM_map_eq_some symbols.sites fun site _ => site.ofJson?_toJson
  simp [ofJson?, toJson, Json.fields?, namedFields?, Json.text?, Json.list?, methods, sites]

theorem Location.integral_toJson (location : Location) : location.toJson.Integral := by
  refine .object fun member listed => ?_
  fin_cases listed
  · exact .string _
  all_goals exact .integer _

theorem ValueType.integral_toJson (type : ValueType) : type.toJson.Integral := by
  cases type with
  | object className =>
    refine .object fun member listed => ?_
    obtain rfl := List.mem_singleton.1 listed
    exact .string _
  | _ => exact .string _

theorem Site.integral_toJson (site : Site) : site.toJson.Integral := by
  refine .object fun member listed => ?_
  fin_cases listed
  · exact .integer _
  · exact site.type.integral_toJson
  · exact site.location.integral_toJson
  · exact .string _

/-- The numbers in an entry are all integers, so writing and parsing loses nothing. -/
theorem MethodSymbols.integral_toJson (entry : MethodSymbols) : entry.toJson.Integral := by
  refine .object fun member listed => ?_
  fin_cases listed
  · exact .string _
  · refine .array fun item listed => ?_
    obtain ⟨location, -, rfl⟩ := List.mem_map.1 listed
    cases location with
    | none => exact .null
    | some location => exact location.integral_toJson

/-- The numbers in a symbol file are all integers, so writing and parsing loses nothing. -/
theorem Symbols.integral_toJson (symbols : Symbols) : symbols.toJson.Integral := by
  refine .object fun member listed => ?_
  fin_cases listed
  · exact .string _
  · refine .array fun item listed => ?_
    obtain ⟨entry, -, rfl⟩ := List.mem_map.1 listed
    exact entry.integral_toJson
  · refine .array fun item listed => ?_
    obtain ⟨site, -, rfl⟩ := List.mem_map.1 listed
    exact site.integral_toJson

/-- The text of a symbol file is read as the symbols that it was written for. -/
theorem Symbols.ofText?_text (symbols : Symbols) : Symbols.ofText? symbols.text = some symbols := by
  rw [ofText?, text, Json.parse?_render symbols.integral_toJson, Option.bind_some, ofJson?_toJson]

theorem Json.parse?_of_head {text : String} {rest : List Char} (head : text.toList = 'I' :: rest) :
    Json.parse? text = none := by
  rw [Json.parse?, head]
  simp only [Json.readValue]
  rw [Json.skipBlank_cons (by decide)]
  simp [Json.readNumber, Json.readDigits, Json.isDigit]

/-- A module's binary is no text of symbols. -/
theorem Symbols.ofText?_of_decode {text : String} {module : Module}
    (decoded : Module.decode (textBytes text) = .ok module) :
    Symbols.ofText? text = none := by
  obtain ⟨rest, _, bytes, -⟩ := Module.decode_eq_ok.1 decoded
  rw [textBytes_eq] at bytes
  have head : ∃ rest, text.toList = 'I' :: rest := by
    cases characters : text.toList with
    | nil =>
      rw [characters] at bytes
      cases bytes
    | cons c others =>
      rw [characters, List.flatMap_cons] at bytes
      have first : magic ++ formatVersion :: rest =
          String.utf8EncodeChar 'I' ++ (0x56 :: 0x4D :: 0x42 :: formatVersion :: rest) := rfl
      have irreflexive := List.lt_irrefl (String.utf8EncodeChar c ++ others.flatMap String.utf8EncodeChar)
      rcases lt_trichotomy c 'I' with below | rfl | above
      · have less := utf8EncodeChar_lt below (others.flatMap String.utf8EncodeChar)
          (0x56 :: 0x4D :: 0x42 :: formatVersion :: rest)
        rw [← first, ← bytes] at less
        exact absurd less irreflexive
      · exact ⟨others, rfl⟩
      · have less := utf8EncodeChar_lt above (0x56 :: 0x4D :: 0x42 :: formatVersion :: rest)
          (others.flatMap String.utf8EncodeChar)
        rw [← first, ← bytes] at less
        exact absurd less irreflexive
  obtain ⟨others, head⟩ := head
  rw [Symbols.ofText?, Json.parse?_of_head head]
  rfl
/-! A module's own symbols give it back its locations. -/

theorem Method.qualifiedName_bare (method : Method) : method.bare.qualifiedName = method.qualifiedName := rfl

/-- A method that lost its locations gets them back from its own entry. -/
theorem Symbols.placeLocations_bare {method : Method} {code : Array Instruction} (body : method.body = some code) :
    placeLocations ⟨method.qualifiedName, code.toList.map (·.location)⟩ method.bare = .ok method := by
  have bare : method.bare.body = some (code.map Instruction.bare) := by rw [Method.bare, body, Option.map_some]
  have lengths : ((code.map Instruction.bare).size != (code.toList.map (·.location)).length) = false := by
    rw [Array.size_map, List.length_map, Array.length_toList, bne_self_eq_false]
  have located (instructions : List Instruction) :
      (instructions.map Instruction.bare).zipWith (fun instruction location => { instruction with location })
        (instructions.map (·.location)) = instructions := by
    induction instructions with
    | nil => rfl
    | cons first rest ih => rw [List.map_cons, List.map_cons, List.zipWith_cons_cons, ih]; rfl
  simp only [placeLocations, bare, lengths, Bool.false_eq_true, if_false, Array.toList_map, located,
    Array.toArray_toList]
  rw [Method.bare, ← body]

/-- An entry passes over the methods that have another name. -/
theorem Symbols.placeEntry_append {entry : MethodSymbols} {front : List Method}
    (others : ∀ method ∈ front, method.qualifiedName ≠ entry.method) (methods : List Method) :
    placeEntry entry (front ++ methods) = (placeEntry entry methods).map (front ++ ·) := by
  induction front with
  | nil =>
    rw [List.nil_append]
    cases placeEntry entry methods <;> rfl
  | cons method front ih =>
    rw [List.cons_append, placeEntry, if_neg (others method (List.mem_cons_self ..)),
      ih fun other member => others other (List.mem_cons_of_mem _ member)]
    cases placeEntry entry methods <;> rfl

/-- The entries of methods that come later go past those that have theirs already. -/
theorem Symbols.placeEntries_bare (done methods : List Method)
    (distinct : ((done ++ methods).map Method.qualifiedName).Nodup) :
    placeEntries (methods.filterMap fun method => method.body.map fun code =>
      ⟨method.qualifiedName, code.toList.map (·.location)⟩)
        (done ++ methods.map Method.bare) = (done ++ methods, .ok ()) := by
  induction methods generalizing done with
  | nil => rfl
  | cons method methods ih =>
    have later := ih (done ++ [method]) (by rwa [List.append_assoc, List.singleton_append])
    rw [List.append_assoc, List.singleton_append, List.append_assoc, List.singleton_append] at later
    cases body : method.body with
    | none =>
      have bare : method.bare = method := by
        rw [Method.bare, body, Option.map_none, ← body]
      rw [List.filterMap_cons_none (by rw [body, Option.map_none]), List.map_cons, bare]
      exact later
    | some code =>
      have others : ∀ earlier ∈ done, earlier.qualifiedName ≠ method.qualifiedName := by
        intro earlier member same
        rw [List.map_append, List.nodup_append] at distinct
        exact distinct.2.2 _ (List.mem_map_of_mem member) _ (List.mem_map_of_mem (List.mem_cons_self ..)) same
      have here : placeEntry ⟨method.qualifiedName, code.toList.map (·.location)⟩
          (done ++ (method :: methods).map Method.bare) = .ok (done ++ method :: methods.map Method.bare) := by
        rw [placeEntry_append others, List.map_cons, placeEntry, if_pos method.qualifiedName_bare,
          placeLocations_bare body]
        rfl
      rw [List.filterMap_cons_some (by rw [body, Option.map_some]), placeEntries, here]
      exact later

theorem Module.symbols_applyTo_bare {module : Module} (distinct : (module.methods.map Method.qualifiedName).Nodup) :
    module.symbols.applyTo module.bare = (module, .ok ()) := by
  have placed : Symbols.placeEntries module.symbols.methods module.bare.methods = (module.methods, .ok ()) :=
    Symbols.placeEntries_bare [] module.methods distinct
  have same : (module.symbols.module != module.bare.name) = false := bne_self_eq_false module.name
  simp only [Symbols.applyTo, same, Bool.false_eq_true, if_false, placed]
  rfl

/-! Jump targets do not show in the symbols. -/

/-- Wrapping the targets to 32 bits touches no location, so the symbols are the same. -/
theorem Module.symbols_wrapped (module : Module) : module.wrapped.symbols = module.symbols := by
  have methods : module.wrapped.symbols.methods = module.symbols.methods := by
    simp only [Module.symbols, Module.wrapped, List.filterMap_map]
    congr 1
    funext method
    simp only [Function.comp_apply, Method.wrapped, Method.mapCode, Option.map_map]
    congr 1
    funext code
    simp only [Function.comp_apply, Array.toList_map, List.map_map]
    rfl
  rw [Module.symbols, Module.symbols] at methods ⊢
  rw [Symbols.mk.injEq]
  exact ⟨rfl, methods, rfl⟩

theorem Module.qualifiedNames_wrapped (module : Module) :
    module.wrapped.methods.map Method.qualifiedName = module.methods.map Method.qualifiedName := by
  rw [Module.wrapped, List.map_map]
  rfl

/-! Symbols add locations and sites to a module, and nothing else. -/

namespace Symbols

variable {entry : MethodSymbols} {entries : List MethodSymbols} {method method' : Method}
  {methods methods' : List Method}

/-- Attaching locations changes nothing else in a method. -/
theorem bare_of_placeLocations (placed : placeLocations entry method = .ok method') : method'.bare = method.bare := by
  unfold placeLocations at placed
  split at placed
  · cases placed
  · rename_i code present
    split at placed
    · cases placed
    · rename_i lengths
      simp only [bne_iff_ne, ne_eq, Decidable.not_not] at lengths
      cases placed
      have located (instructions : List Instruction) (locations : List (Option Location))
          (same : instructions.length = locations.length) :
          (instructions.zipWith (fun instruction location => { instruction with location }) locations).map
          Instruction.bare =
            instructions.map Instruction.bare := by
        induction instructions generalizing locations with
        | nil => rfl
        | cons instruction rest ih =>
          cases locations with
          | nil => cases same
          | cons location others =>
            rw [List.zipWith_cons_cons, List.map_cons, List.map_cons, ih others (Nat.succ.inj same)]
            rfl
      rw [Method.bare, Method.bare, present, Option.map_some, Option.map_some, List.map_toArray, located _ _ lengths,
        ← Array.toList_map, Array.toArray_toList]

/-- Attaching an entry changes nothing but locations in the list of methods. -/
theorem bare_of_placeEntry (placed : placeEntry entry methods = .ok methods') :
    methods'.map Method.bare = methods.map Method.bare := by
  induction methods generalizing methods' with
  | nil => cases placed
  | cons first rest ih =>
    unfold placeEntry at placed
    split at placed
    · cases located : placeLocations entry first with
      | error mismatch =>
        rw [located] at placed
        cases placed
      | ok first' =>
        rw [located] at placed
        cases placed
        rw [List.map_cons, List.map_cons, bare_of_placeLocations located]
    · cases later : placeEntry entry rest with
      | error mismatch =>
        rw [later] at placed
        cases placed
      | ok rest' =>
        rw [later] at placed
        cases placed
        rw [List.map_cons, List.map_cons, ih later]

/-- Attaching entries changes nothing but locations, also when one of them fails. -/
theorem bare_of_placeEntries {outcome : Except SymbolMismatch Unit}
    (placed : placeEntries entries methods = (methods', outcome)) :
    methods'.map Method.bare = methods.map Method.bare := by
  induction entries generalizing methods with
  | nil =>
    cases placed
    rfl
  | cons first rest ih =>
    unfold placeEntries at placed
    split at placed
    · cases placed
      rfl
    · rename_i between here
      exact (ih placed).trans (bare_of_placeEntry here)

theorem bare_applyTo {symbols : Symbols} {bare module : Module} {outcome : Except SymbolMismatch Unit}
    (applied : symbols.applyTo bare = (module, outcome)) : module.bare = bare.bare := by
  unfold applyTo at applied
  split at applied
  · cases applied
    rfl
  · split at applied <;> rename_i methods placed <;> cases applied <;>
      rw [Module.bare, Module.bare, bare_of_placeEntries placed]

end Symbols

end Faultline
