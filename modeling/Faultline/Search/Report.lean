import Faultline.Search.Ranking
import Faultline.Text.JsonReader
import Faultline.Text.Record

namespace Faultline

structure ReportEntry where
  file : String
  startLine : UInt32
  endLine : UInt32
  startColumn : UInt32
  endColumn : UInt32
  fixedFailingTests : Nat
  site : UInt32
  method : String
  tests : List String
deriving DecidableEq

/-- The ranked locations with the figures of the runs that led to them. -/
structure Report where
  totalTests : Nat
  failingTests : Nat
  trials : Nat
  inconclusiveTrials : Nat
  entries : List ReportEntry
deriving DecidableEq

def RankedSite.entry (ranked : RankedSite) : ReportEntry :=
  let location := ranked.site.location
  { file := location.document, startLine := location.startLine, endLine := location.endLine
    startColumn := location.startColumn, endColumn := location.endColumn
    fixedFailingTests := ranked.fixedTests.length, site := ranked.site.id, method := ranked.site.method
    tests := ranked.fixedTests }

namespace ReportEntry

def line (position : Nat) (e : ReportEntry) : String :=
  let span := s!"{e.file}:{e.startLine}:{e.startColumn}-{e.endLine}:{e.endColumn}"
  s!"\n  {position}. {span} fixes {e.fixedFailingTests} ({e.method})"

def toJson (e : ReportEntry) : Json :=
  .object [("file", .string e.file), ("start_line", .integer e.startLine.toNat),
    ("end_line", .integer e.endLine.toNat), ("start_column", .integer e.startColumn.toNat),
    ("end_column", .integer e.endColumn.toNat), ("fixed_failing_tests", .integer e.fixedFailingTests),
    ("site", .integer e.site.toNat), ("method", .string e.method), ("tests", .array (e.tests.map .string))]

def ofJson? (json : Json) : Option ReportEntry := do
  match ← json.required? ["file", "start_line", "end_line", "start_column", "end_column",
    "fixed_failing_tests", "site", "method", "tests"] with
  | [file, startLine, endLine, startColumn, endColumn, fixed, site, method, tests] =>
    return {
      file := ← file.text?, startLine := ← startLine.word?, endLine := ← endLine.word?
      startColumn := ← startColumn.word?, endColumn := ← endColumn.word?
      fixedFailingTests := (← fixed.longWord?).toNat, site := ← site.word?, method := ← method.text?
      tests := ← tests.list? Json.text? }
  | _ => none

end ReportEntry

namespace Report

def make (baseline : Baseline) (findings : Findings) (ranked : List RankedSite) : Report :=
  { totalTests := baseline.length, failingTests := baseline.failing.length, trials := findings.trials
    inconclusiveTrials := findings.undecided.length, entries := ranked.map RankedSite.entry }

def isEmpty (report : Report) : Bool := report.entries.isEmpty

def summary (r : Report) : String :=
  s!"Localization Results:\nTests: {r.totalTests}\nFailing: {r.failingTests}\n" ++
  s!"Trials: {r.trials} ({r.inconclusiveTrials} inconclusive)\nCandidate locations: {r.entries.length}" ++
  String.join (r.entries.zipIdx.map fun (entry, index) => entry.line (index + 1))

def toJson (r : Report) : Json :=
  .object [("total_tests", .integer r.totalTests), ("failing_tests", .integer r.failingTests),
    ("trials", .integer r.trials), ("inconclusive_trials", .integer r.inconclusiveTrials),
    ("entries", .array (r.entries.map ReportEntry.toJson))]

def ofJson? (json : Json) : Option Report := do
  match ← json.required? ["total_tests", "failing_tests", "trials", "inconclusive_trials", "entries"] with
  | [total, failing, trials, inconclusive, entries] =>
    return ⟨(← total.longWord?).toNat, (← failing.longWord?).toNat, (← trials.longWord?).toNat,
      (← inconclusive.longWord?).toNat, ← entries.list? ReportEntry.ofJson?⟩
  | _ => none

def text (report : Report) : String := report.toJson.render

def ofText? (text : String) : Option Report := (Json.parse? text).bind ofJson?

end Report

end Faultline
