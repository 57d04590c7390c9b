import Faultline.Search.Report
import Faultline.Search.TestSuite
import Faultline.Text.Pattern.Reader

namespace Faultline

/-- Why faults cannot be looked for. -/
inductive LocalizeError where
  | suite (failure : SuiteError)
  | noBaseline
  | filter (pattern : String)
deriving DecidableEq, Repr

def LocalizeError.message : LocalizeError → String
  | suite failure => failure.message
  | noBaseline => "no baseline has been recorded"
  | filter pattern => s!"invalid test filter: {pattern}"

/-- A session with the tests selected for it and, once they have been run, their baseline. -/
structure Localizer (ε : Type) where
  session : Session ε
  selected : String → Bool
  baseline : Option Baseline

/-- The tests that a filter selects: those with a name that the pattern matches somewhere. -/
def selectTests : Option String → Except LocalizeError (String → Bool)
  | none => .ok fun _ => true
  | some filter =>
    match Pattern.parse? filter with
    | some pattern => .ok pattern.matchesIn
    | none => .error (.filter filter)

namespace Localizer

variable {ε : Type}

/-- Runs the selected tests of a suite under a recorder that knows all their sites. -/
def ofSuite (suite : TestSuite) (filter : Option String) (heap : Heap) :
    Except LocalizeError (Localizer TestSuite) := do
  let selected ← selectTests filter
  return ⟨⟨suite, .new suite.sites, heap⟩, selected, none⟩

def recordBaseline (executor : Executor ε) (localizer : Localizer ε) : Baseline × Localizer ε :=
  let (baseline, session) := localizer.session.recordBaseline executor localizer.selected
  (baseline, { localizer with session, baseline := some baseline })

/-- Looks for substitutions that make failing tests pass, which needs a baseline to start from. -/
def search (executor : Executor ε) (localizer : Localizer ε) :
    Except LocalizeError ((Baseline × Findings) × Localizer ε) :=
  match localizer.baseline with
  | none => .error .noBaseline
  | some baseline =>
    let (findings, session) := localizer.session.search executor baseline
    .ok ((baseline, findings), { localizer with session })

def rank (localizer : Localizer ε) (findings : Findings) : List RankedSite :=
  Faultline.rank findings.candidates localizer.session.recorder.sites.get?

end Localizer

end Faultline
