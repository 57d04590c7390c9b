import Faultline.Machine.Hook

namespace Faultline

/-- How a run of a test ended; an inconclusive one says nothing about the program. -/
inductive TestResult where
  | pass
  | fail (reason : String)
  | inconclusive (reason : String)
deriving DecidableEq

def TestResult.isFail : TestResult → Bool
  | fail _ => true
  | _ => false

def TestResult.isPass : TestResult → Bool
  | pass => true
  | _ => false

def TestResult.isInconclusive : TestResult → Bool
  | inconclusive _ => true
  | _ => false

/-- A way of running tests by name that has states in `ε`. It reaches a hook of any kind only by calling
it. -/
structure Executor (ε : Type) where
  tests : ε → List String
  run : {σ : Type} → Hook σ → String → ε → σ → Heap → TestResult × ε × σ × Heap

end Faultline
