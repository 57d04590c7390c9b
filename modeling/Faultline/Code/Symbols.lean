import Faultline.Code.Edit
import Faultline.Text.JsonReader
import Faultline.Text.Record

namespace Faultline

/-- The locations of a method's instructions, in order. -/
structure MethodSymbols where
  method : String
  locations : List (Option Location)
deriving DecidableEq

/-- What a symbol file says about a module: the part of it that is not in its binary. -/
structure Symbols where
  module : String
  methods : List MethodSymbols
  sites : List Site
deriving DecidableEq

/-- Why symbols do not belong to a module. -/
inductive SymbolMismatch where
  | otherModule (name : String)
  | unknownMethod (method : String)
  | noBody (method : String)
  | lengths (method : String) (instructions locations : Nat)
deriving DecidableEq, Repr

def SymbolMismatch.reason : SymbolMismatch → String
  | otherModule name => s!"symbols are for module '{name}'"
  | unknownMethod method => s!"unknown method {method}"
  | noBody method => s!"method {method} has no body"
  | lengths method instructions locations =>
    s!"{method} has {instructions} instructions but {locations} locations"

def SymbolMismatch.message (module : String) (mismatch : SymbolMismatch) : String :=
  s!"symbol file does not match module {module}: {mismatch.reason}"

/-- A module's symbols: the locations of every method that has a body, and the sites. -/
def Module.symbols (module : Module) : Symbols :=
  { module := module.name
    methods := module.methods.filterMap fun method => method.body.map fun code =>
      ⟨method.qualifiedName, code.toList.map (·.location)⟩
    sites := module.sites }

namespace Symbols

/-- Gives each instruction the location at its position, which there must be one of for each. -/
def placeLocations (entry : MethodSymbols) (method : Method) : Except SymbolMismatch Method :=
  match method.body with
  | none => .error (.noBody entry.method)
  | some code =>
    if code.size != entry.locations.length then
      .error (.lengths entry.method code.size entry.locations.length)
    else
      let located := code.toList.zipWith (fun instruction location => { instruction with location }) entry.locations
      .ok { method with body := some located.toArray }

/-- Attaches an entry to the first method of that name. -/
def placeEntry (entry : MethodSymbols) : List Method → Except SymbolMismatch (List Method)
  | [] => .error (.unknownMethod entry.method)
  | method :: rest =>
    if method.qualifiedName = entry.method then (placeLocations entry method).map (· :: rest)
    else (placeEntry entry rest).map (method :: ·)

/-- Attaches entries one after the other, up to the first that does not fit. -/
def placeEntries : List MethodSymbols → List Method → List Method × Except SymbolMismatch Unit
  | [], methods => (methods, .ok ())
  | entry :: rest, methods =>
    match placeEntry entry methods with
    | .error mismatch => (methods, .error mismatch)
    | .ok methods => placeEntries rest methods

/-- Attaches symbols to a module. Where they do not fit, the module keeps the locations attached before. -/
def applyTo (symbols : Symbols) (module : Module) : Module × Except SymbolMismatch Unit :=
  if symbols.module != module.name then (module, .error (.otherModule symbols.module))
  else
    match placeEntries symbols.methods module.methods with
    | (methods, .error mismatch) => ({ module with methods }, .error mismatch)
    | (methods, .ok ()) => ({ module with methods, sites := symbols.sites }, .ok ())

end Symbols

/-! The written form of symbols. -/

def Location.toJson (l : Location) : Json :=
  .object [("document", .string l.document), ("start_line", .integer l.startLine.toNat),
    ("end_line", .integer l.endLine.toNat), ("start_column", .integer l.startColumn.toNat),
    ("end_column", .integer l.endColumn.toNat)]

def Location.ofJson? (json : Json) : Option Location := do
  match ← json.required? ["document", "start_line", "end_line", "start_column", "end_column"] with
  | [document, startLine, endLine, startColumn, endColumn] =>
    return ⟨← document.text?, ← startLine.word?, ← endLine.word?, ← startColumn.word?, ← endColumn.word?⟩
  | _ => none

def ValueType.toJson : ValueType → Json
  | object className => .object [("Object", .string className)]
  | type => .string type.debugText

def ValueType.ofJson? : Json → Option ValueType
  | .object [("Object", .string className)] => some (object className)
  | json => do
    let name ← json.choice?
    [int32, int64, float64, bool, char, string].find? fun type => type.debugText = name

def Site.toJson (site : Site) : Json :=
  .object [("id", .integer site.id.toNat), ("ty", site.type.toJson), ("location", site.location.toJson),
    ("method", .string site.method)]

def Site.ofJson? (json : Json) : Option Site := do
  match ← json.required? ["id", "ty", "location", "method"] with
  | [id, type, location, method] =>
    return ⟨← id.word?, ← ValueType.ofJson? type, ← Location.ofJson? location, ← method.text?⟩
  | _ => none

def MethodSymbols.toJson (entry : MethodSymbols) : Json :=
  .object [("method", .string entry.method),
    ("locations", .array (entry.locations.map fun location => location.elim .null Location.toJson))]

def MethodSymbols.ofJson? (json : Json) : Option MethodSymbols := do
  match ← json.required? ["method", "locations"] with
  | [method, locations] => return ⟨← method.text?, ← locations.list? (Json.optional? Location.ofJson?)⟩
  | _ => none

namespace Symbols

def toJson (symbols : Symbols) : Json :=
  .object [("module", .string symbols.module), ("methods", .array (symbols.methods.map MethodSymbols.toJson)),
    ("sites", .array (symbols.sites.map Site.toJson))]

/-- Sites may be absent, since only instrumented modules have any. -/
def ofJson? (json : Json) : Option Symbols := do
  match ← json.fields? [("module", .required), ("methods", .required), ("sites", .defaulted)] with
  | [some module, some methods, sites] =>
    let sites ← match sites with
      | some sites => sites.list? Site.ofJson?
      | none => some []
    return ⟨← module.text?, ← methods.list? MethodSymbols.ofJson?, sites⟩
  | _ => none

/-- The text of a symbol file. -/
def text (symbols : Symbols) : String := symbols.toJson.render

def ofText? (text : String) : Option Symbols := (Json.parse? text).bind ofJson?

end Symbols

end Faultline
