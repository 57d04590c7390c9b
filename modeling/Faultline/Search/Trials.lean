import Faultline.Search.Session

namespace Faultline

/-- A substitution at one site that made a failing test pass. -/
structure Candidate where
  site : UInt32
  test : String
  replaced : Value
  alternate : Value
deriving DecidableEq

/-- A substitution whose run could not be judged. -/
structure UndecidedTrial where
  site : UInt32
  test : String
  alternate : Value
  reason : String
deriving DecidableEq

/-- What trials found, in the order in which they were made. -/
structure Findings where
  candidates : List Candidate
  undecided : List UndecidedTrial
  trials : Nat
deriving DecidableEq

namespace Findings

def empty : Findings := ⟨[], [], 0⟩

def append (a b : Findings) : Findings :=
  ⟨a.candidates ++ b.candidates, a.undecided ++ b.undecided, a.trials + b.trials⟩

instance : Append Findings := ⟨append⟩

end Findings

/-- The values of a type that were seen at a site, each once in the order of first sight, other than the
one to be replaced. -/
def alternateValues (profiles : List Profile) (site : UInt32) (type : ValueType) (replaced : Value) :
    List Value :=
  ((profiles.flatMap (·.valuesAt site)).foldl
    (fun pool value =>
      if !value.isAssignable type || value.same replaced || pool.any (·.same value) then pool
        else value :: pool) []).reverse

namespace Session

variable {ε : Type}

/-- Runs a test with a copy of a value substituted at a site for this one run. -/
def trial (executor : Executor ε) (session : Session ε) (site : UInt32) (test : String)
    (alternate : Value) : TestResult × Session ε :=
  let ⟨state, recorder, heap⟩ := session
  let (copy, heap) := heap.copy alternate
  match recorder.install site copy with
  | .error failure => (.inconclusive failure.message, ⟨state, recorder, heap⟩)
  | .ok recorder =>
    let (result, session) := Session.run executor ⟨state, recorder, heap⟩ test
    (result, session.mapRecorder (·.uninstall site))

/-- Tries values at a site one after the other until the test passes. -/
def tryAlternates (executor : Executor ε) (test : String) (site : UInt32) (replaced : Value) :
    List Value → Session ε → Findings × Session ε
  | [], session => (.empty, session)
  | alternate :: rest, session =>
    match session.trial executor site test alternate with
    | (.pass, session) => (⟨[⟨site, test, replaced, alternate⟩], [], 1⟩, session)
    | (.fail _, session) =>
      let (later, session) := tryAlternates executor test site replaced rest session
      (⟨[], [], 1⟩ ++ later, session)
    | (.inconclusive reason, session) =>
      let (later, session) := tryAlternates executor test site replaced rest session
      (⟨[], [⟨site, test, alternate, reason⟩], 1⟩ ++ later, session)

/-- Tries the values seen at each of the sites in place of the one that the test saw there first. -/
def trySites (executor : Executor ε) (profiles : List Profile) (profile : Profile) :
    List UInt32 → Session ε → Findings × Session ε
  | [], session => (.empty, session)
  | site :: rest, session =>
    match profile.first? site, session.recorder.sites.get? site with
    | some first, some known =>
      let pool := alternateValues profiles site known.type first.value
      let (here, session) := tryAlternates executor profile.test site first.value pool session
      let (later, session) := trySites executor profiles profile rest session
      (here ++ later, session)
    | _, _ => trySites executor profiles profile rest session

/-- Goes through the sites of each of the tests, as far as the tests have a profile. -/
def tryTests (executor : Executor ε) (profiles : List Profile) :
    List String → Session ε → Findings × Session ε
  | [], session => (.empty, session)
  | test :: rest, session =>
    match profiles.find? (·.test = test) with
    | none => tryTests executor profiles rest session
    | some profile =>
      let (here, session) := trySites executor profiles profile profile.sites session
      let (later, session) := tryTests executor profiles rest session
      (here ++ later, session)

/-- The profiles that the tests of a baseline left. -/
def baselineProfiles (session : Session ε) (baseline : Baseline) : List Profile :=
  baseline.filterMap fun entry => session.recorder.profiles.get? entry.1

/-- Looks for substitutions at one site that make a failing test of the baseline pass. -/
def search (executor : Executor ε) (baseline : Baseline) (session : Session ε) :
    Findings × Session ε :=
  let profiles := session.baselineProfiles baseline
  let session := session.mapRecorder fun recorder => { recorder with mode := .replay }
  let (found, session) := tryTests executor profiles baseline.failing session
  (found, session.mapRecorder fun recorder => { recorder with mode := .recording })

end Session

end Faultline
