import Faultline.Machine.Frame
import Faultline.Value.Heap

namespace Faultline

/-- What a hook call says about the place it stands at. -/
structure HookPoint where
  site : UInt32
  type : ValueType
  location : Location
deriving DecidableEq

/-- The receiver of observed values, with a state of its own: it answers the value that execution goes on
with, or why it refuses. It may create and change objects. -/
abbrev Hook (σ : Type) := HookPoint → Value → σ → Heap → Except String Value × σ × Heap

/-- The hook that answers every value by itself. -/
def passThrough {σ : Type} : Hook σ := fun _ value state heap => (.ok value, state, heap)

/-- The number of a hook operand that must not be negative. -/
def Value.toCoordinate (operation : String) : Value → Except RuntimeError UInt32
  | .int32 n => if n < 0 then .error (.typeMismatch operation n.toInt.repr) else .ok n.toUInt32
  | other => .error (.typeMismatch operation other.describe)

def Value.toSiteId : Value → Except RuntimeError UInt32
  | .int64 n =>
    if n < 0 || 0xFFFFFFFF < n then .error (.typeMismatch "hook site id" n.toInt.repr)
    else .ok n.toUInt64.toUInt32
  | other => .error (.typeMismatch "hook site id" other.describe)

def Value.toDocument : Value → Except RuntimeError String
  | .string s => .ok s
  | other => .error (.typeMismatch "hook document" other.describe)

/-- Takes a hook call's operands off the stack: the observed value, unboxed, and where it was seen. -/
def Frame.popHookCall (frame : Frame) (type : ValueType) :
    Except RuntimeError ((HookPoint × Value) × Frame) := do
  match ← frame.popMany 7 with
  | ([value, document, startLine, endLine, startColumn, endColumn, site], frame) =>
    let document ← document.toDocument
    let startLine ← startLine.toCoordinate "hook start line"
    let endLine ← endLine.toCoordinate "hook end line"
    let startColumn ← startColumn.toCoordinate "hook start column"
    let endColumn ← endColumn.toCoordinate "hook end column"
    let site ← site.toSiteId
    let value ← if type.isPrimitive then (value.unbox type).mapError .value else .ok value
    return ((⟨site, type, ⟨document, startLine, endLine, startColumn, endColumn⟩⟩, value), frame)
  | _ => .error frame.underflow

end Faultline
