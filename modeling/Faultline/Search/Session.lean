import Faultline.Recording.Recorder
import Faultline.Search.Executor

namespace Faultline

/-- Tests under observation: the executor's state, the recorder that every run reports to, and the objects
of all of them. -/
structure Session (ε : Type) where
  state : ε
  recorder : Recorder
  heap : Heap

/-- The results of the selected tests, in the order of the suite. -/
abbrev Baseline := List (String × TestResult)

def Baseline.failing (baseline : Baseline) : List String :=
  (baseline.filter (·.2.isFail)).map (·.1)

namespace Session

variable {ε : Type}

def mapRecorder (session : Session ε) (f : Recorder → Recorder) : Session ε :=
  { session with recorder := f session.recorder }

/-- Runs one test in the mode the recorder is in. -/
def run (executor : Executor ε) (session : Session ε) (test : String) : TestResult × Session ε :=
  let ⟨state, recorder, heap⟩ := session
  let (result, state, recorder, heap) := executor.run Recorder.hook test state (recorder.beginTest test) heap
  (result, ⟨state, recorder.endTest, heap⟩)

def runAll (executor : Executor ε) : List String → Session ε → Baseline × Session ε
  | [], session => ([], session)
  | test :: rest, session =>
    let (result, session) := session.run executor test
    let (later, session) := runAll executor rest session
    ((test, result) :: later, session)

/-- Runs every selected test once, recording and without overrides. -/
def recordBaseline (executor : Executor ε) (selected : String → Bool) (session : Session ε) :
    Baseline × Session ε :=
  let session := session.mapRecorder fun recorder =>
    { recorder.clearOverrides with mode := .recording }
  runAll executor ((executor.tests session.state).filter selected) session

end Session

end Faultline
