import Faultline.Code.Module
import Faultline.Machine.Hook
import Faultline.Recording.Profile

namespace Faultline

/-- Why the recorder refuses a value. -/
inductive RecorderError where
  | noCurrentTest (site : UInt32)
  | unknownSite (site : UInt32)
  | siteType (site : UInt32) (declared hooked : ValueType)
  | valueType (site : UInt32) (expected : ValueType) (found : String)
  | overrideType (site : UInt32) (expected : ValueType) (found : String)
deriving DecidableEq, Repr

def RecorderError.message : RecorderError → String
  | noCurrentTest site => s!"site {site} reached outside of a test"
  | unknownSite site => s!"unknown site {site}"
  | siteType site declared hooked =>
    s!"site {site} is declared {declared.text} but was hooked as {hooked.text}"
  | valueType site expected found => s!"site {site} is declared {expected.text} but observed {found}"
  | overrideType site expected found =>
    s!"override for site {site} must be {expected.text}, found {found}"

/-- The known sites by number. -/
abbrev SiteTable := Table UInt32 Site

/-- Of several sites with one number, the last is kept. -/
def SiteTable.ofSites (sites : List Site) : SiteTable := Table.ofList (sites.map fun site => (site.id, site))

def SiteTable.ofModules (modules : List Module) : SiteTable := ofSites (modules.flatMap (·.sites))

/-- Whether the values seen make up a test's profile, or a replay in which overrides take effect. -/
inductive Mode where
  | recording
  | replay
deriving DecidableEq

/-- The observer of running tests: it keeps what each run saw and substitutes values at sites. -/
structure Recorder where
  mode : Mode
  sites : SiteTable
  current : Option String
  profiles : Table String Profile
  replay : Option Profile
  overrides : Table UInt32 Value
deriving DecidableEq

namespace Recorder

def new (sites : SiteTable) : Recorder := ⟨.recording, sites, none, .empty, none, .empty⟩

/-- Starts a run of a test with an empty profile in the place that the mode writes to. -/
def beginTest (recorder : Recorder) (test : String) : Recorder :=
  match recorder.mode with
  | .recording =>
    { recorder with current := some test, profiles := recorder.profiles.insert test (.empty test) }
  | .replay => { recorder with current := some test, replay := some (.empty test) }

def endTest (recorder : Recorder) : Recorder := { recorder with current := none }

/-- Takes a test's profile away, if it has one. -/
def takeProfile (recorder : Recorder) (test : String) : Option Profile × Recorder :=
  (recorder.profiles.get? test, { recorder with profiles := recorder.profiles.erase test })

/-- Substitutes a value at a site from now on; it must be of the site's type. -/
def install (recorder : Recorder) (site : UInt32) (value : Value) : Except RecorderError Recorder :=
  match recorder.sites.get? site with
  | none => .error (.unknownSite site)
  | some known =>
    if value.isAssignable known.type then
      .ok { recorder with overrides := recorder.overrides.insert site value }
    else .error (.overrideType site known.type value.describe)

def uninstall (recorder : Recorder) (site : UInt32) : Recorder :=
  { recorder with overrides := recorder.overrides.erase site }

def clearOverrides (recorder : Recorder) : Recorder := { recorder with overrides := .empty }

/-- The test that an observation belongs to, if it is one that the recorder accepts. -/
def accept (recorder : Recorder) (point : HookPoint) (value : Value) : Except RecorderError String :=
  match recorder.current, recorder.sites.get? point.site with
  | none, _ => .error (.noCurrentTest point.site)
  | some _, none => .error (.unknownSite point.site)
  | some test, some site =>
    if site.type != point.type then .error (.siteType point.site site.type point.type)
    else if value.isAssignable point.type then .ok test
    else .error (.valueType point.site point.type value.describe)

/-- Adds a value to the profile that the mode writes to, and answers the value to go on with. -/
def keep (recorder : Recorder) (test : String) (point : HookPoint) (value observed : Value) :
    Value × Recorder :=
  match recorder.mode with
  | .recording =>
    let profile := (recorder.profiles.get? test).getD (.empty test)
    let profile := profile.record point.site point.type observed
    (value, { recorder with profiles := recorder.profiles.insert test profile })
  | .replay =>
    let profile := (recorder.replay.getD (.empty test)).record point.site point.type observed
    ((recorder.overrides.get? point.site).getD value, { recorder with replay := some profile })

/-- Receives a value at a site. The profile gets a copy of its own, so that later changes to the program's
objects do not reach it. -/
def observe (point : HookPoint) (value : Value) (recorder : Recorder) (heap : Heap) :
    Except RecorderError Value × Recorder × Heap :=
  match recorder.accept point value with
  | .error failure => (.error failure, recorder, heap)
  | .ok test =>
    let (observed, heap) := heap.copy value
    let (answer, recorder) := recorder.keep test point value observed
    (.ok answer, recorder, heap)

def hook : Hook Recorder := fun point value recorder heap =>
  let (answer, recorder, heap) := observe point value recorder heap
  (answer.mapError RecorderError.message, recorder, heap)

end Recorder

end Faultline
