import Faultline.Recording.Recorder
import Faultline.Search.Trials

namespace Faultline

/-- A site with the failing tests that a substitution there fixed, each once in the order found. -/
structure RankedSite where
  site : Site
  fixedTests : List String
deriving DecidableEq

/-- The tests that candidates fixed, by site. -/
def fixedTestsBySite (candidates : List Candidate) : Table UInt32 (List String) :=
  candidates.foldl
    (fun table candidate =>
      let tests := (table.get? candidate.site).getD []
      table.insert candidate.site
        (if candidate.test ∈ tests then tests else tests ++ [candidate.test])) .empty

/-- The known sites among the candidates', those that fixed the most tests first and of equals the one
with the lower number. -/
def rank (candidates : List Candidate) (lookup : UInt32 → Option Site) : List RankedSite :=
  let ranked := (fixedTestsBySite candidates).entries.filterMap fun (id, tests) =>
    (lookup id).map fun site => (⟨site, tests⟩ : RankedSite)
  ranked.mergeSort fun a b => decide (b.fixedTests.length ≤ a.fixedTests.length)

end Faultline
