import Faultline.Proofs.Code.Symbols

namespace Faultline

/-- The locations of a method's instructions, in order. -/
def Method.locations (method : Method) : List (Option Location) := method.code.toList.map (·.location)

/-- Two lists are equal as soon as two views that together determine an item agree on them. -/
theorem eq_of_maps {α β γ : Type} {f : α → β} {g : α → γ} (whole : ∀ x y, f x = f y → g x = g y → x = y)
    {items items' : List α} (left : items.map f = items'.map f)
    (right : items.map g = items'.map g) : items = items' := by
  induction items generalizing items' with
  | nil => exact (List.map_eq_nil_iff.1 left.symm).symm
  | cons x rest ih =>
    cases items' with
    | nil => cases left
    | cons y rest' =>
      rw [List.map_cons, List.map_cons, List.cons.injEq] at left right
      rw [whole x y left.1 right.1, ih left.2 right.2]

/-- A method is its locations and what is left without them. -/
theorem Method.eq_of_bare (method method' : Method) (bare : method.bare = method'.bare)
    (located : method.locations = method'.locations) : method = method' := by
  have instruction (x y : Instruction) (bare : x.bare = y.bare) (located : x.location = y.location) : x = y := by
    obtain ⟨opcode, location⟩ := x
    obtain ⟨opcode', location'⟩ := y
    cases located
    cases bare
    rfl
  obtain ⟨owner, name, isStatic, params, locals, returns, attributes, body⟩ := method
  obtain ⟨owner', name', isStatic', params', locals', returns', attributes', body'⟩ := method'
  simp only [Method.bare, Method.mk.injEq] at bare ⊢
  obtain ⟨rfl, rfl, rfl, rfl, rfl, rfl, rfl, bodies⟩ := bare
  refine ⟨rfl, rfl, rfl, rfl, rfl, rfl, rfl, ?_⟩
  cases body <;> cases body'
  case none.none => rfl
  case none.some | some.none => cases bodies
  case some.some code code' =>
    rw [Option.map_some, Option.map_some, Option.some.injEq, ← Array.toList_inj, Array.toList_map,
      Array.toList_map] at bodies
    rw [← Array.toList_inj.1 (eq_of_maps instruction bodies located)]

namespace MethodSymbols

/-- Where the method stands that the entry is for, the first one of that name. -/
def place? (entry : MethodSymbols) (methods : List Method) : Option Nat :=
  methods.findIdx? fun method => method.qualifiedName = entry.method

/-- The first method of that name has a body, with as many instructions as there are locations for it. -/
def Suits (entry : MethodSymbols) (methods : List Method) : Prop :=
  ∃ method code, methods.find? (fun method => method.qualifiedName = entry.method) = some method ∧
    method.body = some code ∧ code.size = entry.locations.length

/-- What an entry that does not suit is refused for. -/
def check (entry : MethodSymbols) (methods : List Method) : Except SymbolMismatch Unit :=
  match methods.find? fun method => method.qualifiedName = entry.method with
  | none => .error (.unknownMethod entry.method)
  | some method =>
    match method.body with
    | none => .error (.noBody entry.method)
    | some code =>
      if code.size = entry.locations.length then .ok ()
        else .error (.lengths entry.method code.size entry.locations.length)

variable {entry : MethodSymbols} {methods methods' : List Method}

theorem suits_iff : entry.Suits methods ↔ entry.check methods = .ok () := by
  unfold Suits check
  cases methods.find? fun method => method.qualifiedName = entry.method with
  | none => simp
  | some method => cases body : method.body <;> simp [body]

instance : Decidable (entry.Suits methods) := decidable_of_iff (entry.check methods = .ok ()) suits_iff.symm

/-! Which entries suit does not depend on the locations that the methods have. -/

theorem check_bare (entry : MethodSymbols) (methods : List Method) :
    entry.check (methods.map Method.bare) = entry.check methods := by
  have named : (fun method : Method => decide (method.qualifiedName = entry.method)) ∘ Method.bare =
      fun method => decide (method.qualifiedName = entry.method) := rfl
  rw [check, List.find?_map, named, check]
  cases methods.find? fun method => method.qualifiedName = entry.method with
  | none => rfl
  | some method => cases body : method.body <;> simp [Method.bare, body]

theorem check_congr (same : methods.map Method.bare = methods'.map Method.bare) (entry : MethodSymbols) :
    entry.check methods = entry.check methods' := by
  rw [← check_bare, same, check_bare]

theorem suits_congr (same : methods.map Method.bare = methods'.map Method.bare) (entry : MethodSymbols) :
    entry.Suits methods ↔ entry.Suits methods' := by
  rw [suits_iff, suits_iff, check_congr same]

theorem place?_congr (same : methods.map Method.bare = methods'.map Method.bare) (entry : MethodSymbols) :
    entry.place? methods = entry.place? methods' := by
  have bare (methods : List Method) : entry.place? (methods.map Method.bare) = entry.place? methods :=
    List.findIdx?_map
  rw [← bare, same, bare]

end MethodSymbols

namespace Symbols

variable {entry : MethodSymbols} {entries : List MethodSymbols} {method method' : Method}
  {methods methods' : List Method} {outcome : Except SymbolMismatch Unit}

/-- Whether an entry fits a method depends on its body and its length only, not on what was attached before.
-/
theorem placeLocations_map (entry : MethodSymbols) (method : Method) :
    (placeLocations entry method).map (fun _ => ()) = match method.body with
      | none => .error (.noBody entry.method)
      | some code =>
        if code.size = entry.locations.length then .ok ()
        else .error (.lengths entry.method code.size entry.locations.length) := by
  unfold placeLocations
  cases method.body with
  | none => rfl
  | some code =>
    simp only [bne_iff_ne, ne_eq, ite_not]
    split <;> rfl

/-- A method that takes an entry has exactly the locations of the entry. -/
theorem locations_of_placeLocations (placed : placeLocations entry method = .ok method') :
    method'.locations = entry.locations := by
  unfold placeLocations at placed
  split at placed
  · cases placed
  · rename_i code present
    split at placed
    · cases placed
    · rename_i lengths
      simp only [bne_iff_ne, ne_eq, Decidable.not_not] at lengths
      cases placed
      have located : (code.toList.zipWith (fun (instruction : Instruction) location => { instruction with location })
          entry.locations).map (·.location) = (code.toList.zip entry.locations).map Prod.snd := by
        rw [List.zip, List.map_zipWith, List.map_zipWith]
      exact located.trans (List.map_snd_zip (Nat.le_of_eq lengths.symm))

/-- An entry is attached just if it suits. -/
theorem placeEntry_map (entry : MethodSymbols) (methods : List Method) :
    (placeEntry entry methods).map (fun _ => ()) = entry.check methods := by
  induction methods with
  | nil => rfl
  | cons first rest ih =>
    unfold placeEntry MethodSymbols.check
    rw [List.find?_cons]
    by_cases named : first.qualifiedName = entry.method
    · simp only [named, if_true, decide_true]
      rw [← placeLocations_map]
      cases placeLocations entry first <;> rfl
    · simp only [named, if_false, decide_false]
      rw [← MethodSymbols.check, ← ih]
      cases placeEntry entry rest <;> rfl

theorem mapIdx_unchanged {α : Type} (items : List α) : (items.mapIdx fun _ item => item) = items :=
  List.ext_getElem? fun position => by simp

/-- An attached entry gives its locations to the method that it is for, and to no other. -/
theorem locations_of_placeEntry (placed : placeEntry entry methods = .ok methods') :
    methods'.map Method.locations = (methods.map Method.locations).mapIdx fun position located =>
      if entry.place? methods = some position then entry.locations else located := by
  induction methods generalizing methods' with
  | nil => cases placed
  | cons first rest ih =>
    unfold placeEntry at placed
    unfold MethodSymbols.place? at ih ⊢
    rw [List.findIdx?_cons, List.map_cons, List.mapIdx_cons]
    split at placed
    · rename_i named
      cases located : placeLocations entry first with
      | error mismatch =>
        rw [located] at placed
        cases placed
      | ok first' =>
        rw [located] at placed
        cases placed
        simp [named, locations_of_placeLocations located, mapIdx_unchanged]
    · rename_i named
      cases later : placeEntry entry rest with
      | error mismatch =>
        rw [later] at placed
        cases placed
      | ok rest' =>
        rw [later] at placed
        cases placed
        rw [List.map_cons, ih later]
        simp [named]

/-- The last entry for the method at the position, of those before the first that does not suit. -/
def latestFor (entries : List MethodSymbols) (methods : List Method) (position : Nat) : Option MethodSymbols :=
  ((entries.takeWhile fun entry => entry.Suits methods).filter fun entry =>
    entry.place? methods = some position).getLast?

theorem latestFor_congr (same : methods.map Method.bare = methods'.map Method.bare)
    (entries : List MethodSymbols) (position : Nat) :
    latestFor entries methods position = latestFor entries methods' position := by
  simp only [latestFor, MethodSymbols.suits_congr same, MethodSymbols.place?_congr same]

theorem latestFor_cons (suits : entry.Suits methods) (position : Nat) :
    latestFor (entry :: entries) methods position =
      (latestFor entries methods position).or
        (if entry.place? methods = some position then some entry else none) := by
  simp only [latestFor, List.takeWhile_cons, suits, decide_true, if_true, List.filter_cons]
  by_cases here : entry.place? methods = some position
  · simp only [here, decide_true, if_true, List.getLast?_cons]
    cases List.getLast? _ <;> rfl
  · simp [here]

theorem latestFor_cons_of_not (refused : ¬ entry.Suits methods) (position : Nat) :
    latestFor (entry :: entries) methods position = none := by
  simp [latestFor, refused]

/-- Entries are attached up to the first that is refused, and each method is left with the locations of the
last one for it. -/
theorem placeEntries_spec (placed : placeEntries entries methods = (methods', outcome)) :
    outcome = entries.forM (·.check methods) ∧ methods'.map Method.locations =
      (methods.map Method.locations).mapIdx fun position located =>
        ((latestFor entries methods position).map (·.locations)).getD located := by
  induction entries generalizing methods with
  | nil =>
    cases placed
    exact ⟨rfl, (mapIdx_unchanged _).symm⟩
  | cons first rest ih =>
    unfold placeEntries at placed
    have checked := placeEntry_map first methods
    rw [List.forM_eq_forM, List.forM_cons, ← checked]
    split at placed
    · rename_i mismatch refused
      cases placed
      rw [refused] at checked ⊢
      have refused : ¬ first.Suits methods' := by
        rw [MethodSymbols.suits_iff, ← checked]
        exact nofun
      refine ⟨rfl, ?_⟩
      simp [latestFor_cons_of_not refused, mapIdx_unchanged]
    · rename_i between here
      have same := bare_of_placeEntry here
      have suits : first.Suits methods := MethodSymbols.suits_iff.2 (by rw [← checked, here]; rfl)
      obtain ⟨outcome, located⟩ := ih placed
      rw [here, outcome]
      simp only [MethodSymbols.check_congr same] at outcome ⊢
      refine ⟨rfl, ?_⟩
      rw [located, locations_of_placeEntry here, List.mapIdx_mapIdx]
      congr 1
      funext position location
      simp only [Function.comp_apply, latestFor_cons suits, latestFor_congr same]
      cases latestFor rest methods position with
      | some _ => rfl
      | none =>
        split <;> simp_all

/-- What has been attached stays as it is when it is attached once more. -/
theorem placeEntries_again (placed : placeEntries entries methods = (methods', outcome)) :
    placeEntries entries methods' = (methods', outcome) := by
  have same := bare_of_placeEntries placed
  obtain ⟨first, located⟩ := placeEntries_spec placed
  rcases again : placeEntries entries methods' with ⟨methods'', outcome'⟩
  obtain ⟨second, located'⟩ := placeEntries_spec again
  simp only [MethodSymbols.check_congr same] at second
  have settled : methods''.map Method.locations = methods'.map Method.locations := by
    rw [located', located, List.mapIdx_mapIdx]
    congr 1
    funext position location
    rw [Function.comp_apply, latestFor_congr same]
    cases latestFor entries methods position <;> rfl
  rw [eq_of_maps Method.eq_of_bare (bare_of_placeEntries again) settled, first, second]

theorem forM_eq_ok {α ε : Type} {check : α → Except ε Unit} {items : List α} :
    items.forM check = .ok () ↔ ∀ item ∈ items, check item = .ok () := by
  induction items with
  | nil => simp [Pure.pure, Except.pure]
  | cons first rest ih =>
    rw [List.forall_mem_cons, ← ih, List.forM_eq_forM, List.forM_cons]
    cases check first <;> simp [Bind.bind, Except.bind]

variable {symbols : Symbols} {module result : Module}

theorem applyTo_of_placed (module : Module) (named : symbols.module = module.name)
    (placed : placeEntries symbols.methods module.methods = (methods, outcome)) :
    symbols.applyTo module =
      ({ module with methods, sites := if outcome.isOk then symbols.sites else module.sites }, outcome) := by
  have named : (symbols.module != module.name) = false := by rw [named, bne_self_eq_false]
  cases outcome <;> simp only [applyTo, named, Bool.false_eq_true, if_false, placed] <;> rfl

theorem applyTo_of_other (other : symbols.module ≠ module.name) :
    symbols.applyTo module = (module, .error (.otherModule symbols.module)) := by
  rw [applyTo, if_pos (bne_iff_ne.2 other)]

/-- Symbols are attached to a module just if they name it and all their entries suit. In any case nothing but
locations and sites changes: nothing at all where they name another module, and else each method gets the
locations of the last entry for it before the first that does not suit, the sites only if there is none such.
To attach them once more makes no difference. -/
theorem applyTo_spec (applied : symbols.applyTo module = (result, outcome)) :
    (outcome = .ok () ↔ symbols.module = module.name ∧ ∀ entry ∈ symbols.methods, entry.Suits module.methods) ∧
      result.bare = module.bare ∧
      (symbols.module ≠ module.name → result = module) ∧
      (symbols.module = module.name → result.methods.map Method.locations =
        (module.methods.map Method.locations).mapIdx fun position located =>
          ((latestFor symbols.methods module.methods position).map (·.locations)).getD located) ∧
      (outcome = .ok () → result.sites = symbols.sites) ∧
      (outcome ≠ .ok () → result.sites = module.sites) ∧
      symbols.applyTo result = (result, outcome) := by
  have bare := bare_applyTo applied
  by_cases named : symbols.module = module.name
  · rcases placed : placeEntries symbols.methods module.methods with ⟨methods, outcome⟩
    obtain ⟨checked, located⟩ := placeEntries_spec placed
    cases (applyTo_of_placed module named placed).symm.trans applied
    refine ⟨?_, bare, fun other => absurd named other, fun _ => located, ?_, ?_, ?_⟩
    · rw [checked, forM_eq_ok, and_iff_right named]
      simp only [MethodSymbols.suits_iff]
    · rintro rfl
      rfl
    · intro failed
      cases outcome with
      | ok => exact absurd rfl failed
      | error mismatch => rfl
    · let attached : Module := { module with methods, sites := if outcome.isOk then symbols.sites else module.sites }
      refine (applyTo_of_placed attached named (placeEntries_again placed)).trans ?_
      cases outcome <;> rfl
  · cases (applyTo_of_other named).symm.trans applied
    refine ⟨⟨nofun, fun suited => absurd suited.1 named⟩, bare, fun _ => rfl, fun same => absurd same named,
      nofun, fun _ => rfl, ?_⟩
    exact applyTo_of_other named

/-- Two methods of one name, the second of which no symbols are attached to, and one without a body. -/
def twinModule : Module :=
  { name := "M", optimized := false, debugInfo := .full, metadata := .ofList [], classes := []
    methods :=
      [{ owner := "M", name := "f", isStatic := true, params := [], locals := [], returns := none, attributes := []
         body := some #[⟨.return, none⟩] },
       { owner := "M", name := "f", isStatic := true, params := [.int32], locals := [], returns := none,
         attributes := []
         body := some #[⟨.return, some ⟨"old", 1, 1, 1, 2⟩⟩] },
       { owner := "M", name := "g", isStatic := true, params := [], locals := [], returns := none, attributes := []
         body := none }]
    sites := [] }

/-- Two entries for one method, and one for the method that has no body. -/
def twinSymbols : Symbols :=
  { module := "M"
    methods := [⟨"M::f", [some ⟨"a", 1, 1, 1, 2⟩]⟩, ⟨"M::f", [some ⟨"b", 1, 1, 1, 2⟩]⟩, ⟨"M::g", []⟩,
      ⟨"M::f", [none]⟩]
    sites := [⟨1, .int32, ⟨"b", 1, 1, 1, 2⟩, "M::f"⟩] }

/-- Two overloads that share a qualified name and an entry for a method without a body. -/
theorem applyTo_spec_twin :
    ((twinSymbols.applyTo twinModule).2 = .error (.noBody "M::g") ∧
      (twinSymbols.applyTo twinModule).1.methods.map Method.locations =
        [[some ⟨"b", 1, 1, 1, 2⟩], [some ⟨"old", 1, 1, 1, 2⟩], []] ∧
      (twinSymbols.applyTo twinModule).1.sites = [] ∧
      twinSymbols.applyTo (twinSymbols.applyTo twinModule).1 = twinSymbols.applyTo twinModule) ∧
    (({ twinSymbols with methods := twinSymbols.methods.take 2 }.applyTo twinModule).2 = .ok () ∧
      ({ twinSymbols with methods := twinSymbols.methods.take 2 }.applyTo twinModule).1.sites = twinSymbols.sites) ∧
    ({ twinSymbols with module := "N" }.applyTo twinModule).1 = twinModule := by
  have spec (symbols : Symbols) {result : Module} {outcome : Except SymbolMismatch Unit}
      (applied : symbols.applyTo twinModule = (result, outcome)) := applyTo_spec applied
  obtain ⟨-, -, -, located, -, sites, again⟩ := spec twinSymbols Prod.mk.eta.symm
  obtain ⟨attached, -, -, -, sites', -⟩ :=
    spec { twinSymbols with methods := twinSymbols.methods.take 2 } Prod.mk.eta.symm
  obtain ⟨-, -, other, -⟩ := spec { twinSymbols with module := "N" } Prod.mk.eta.symm
  have refused : (twinSymbols.applyTo twinModule).2 = .error (.noBody "M::g") := by decide
  have suited := attached.2 ⟨rfl, by decide⟩
  refine ⟨⟨refused, (located rfl).trans (by decide), sites ?_, again⟩, ⟨suited, sites' suited⟩, other (by decide)⟩
  rw [refused]
  exact nofun

end Symbols

end Faultline
