import Faultline.Site.Classify

namespace Faultline

/-- Why a module cannot be instrumented. -/
inductive InstrumentError where
  | noLocation (method : String) (index : Nat)
  | locationOutOfRange (site value : UInt32)
  | classify (failure : ClassifyError)
deriving DecidableEq, Repr

def InstrumentError.message : InstrumentError → String
  | noLocation method index => s!"no source location for instruction {index} in {method}"
  | locationOutOfRange site value => s!"site {site} location {value} exceeds the Int32 range"
  | classify failure => failure.message

namespace Site

/-- A line or column as a literal, which holds 31 bits. -/
def literal (site : Site) (value : UInt32) : Except InstrumentError Int32 :=
  if value ≤ 0x7FFFFFFF then .ok value.toInt32 else .error (.locationOutOfRange site.id value)

/-- The opcodes that show the value on top of the stack to the hook and leave the hook's answer there. A
primitive value is boxed on the way. -/
def hookOpcodes (site : Site) : Except InstrumentError (List Opcode) := do
  let startLine ← site.literal site.location.startLine
  let endLine ← site.literal site.location.endLine
  let startColumn ← site.literal site.location.startColumn
  let endColumn ← site.literal site.location.endColumn
  let call : List Opcode :=
    [.loadString site.location.document, .loadInt32 startLine, .loadInt32 endLine, .loadInt32 startColumn,
      .loadInt32 endColumn, .loadInt64 site.id.toUInt64.toInt64, .callHook site.type]
  return if site.type.isPrimitive then .box site.type :: call ++ [.unbox site.type] else call

/-- The instructions that follow a site, all of them hidden. -/
def hookSequence (site : Site) : Except InstrumentError (Array Instruction) := do
  let opcodes ← site.hookOpcodes
  return (opcodes.map fun opcode => Instruction.hidden opcode site.location.document).toArray

end Site

/-- The number of instructions that follow a site of the type. -/
def ValueType.hookLength (type : ValueType) : Nat := if type.isPrimitive then 9 else 7

end Faultline
