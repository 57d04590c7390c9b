namespace Faultline

/-- A span of source text. -/
structure Location where
  document : String
  startLine : UInt32
  endLine : UInt32
  startColumn : UInt32
  endColumn : UInt32
deriving DecidableEq, Inhabited, Repr

namespace Location

/-- The line number reserved for code that has no source text. -/
def hiddenLine : UInt32 := 0xFEEFEE

/-- The location of generated code in a document. -/
def hidden (document : String) : Location := ⟨document, hiddenLine, hiddenLine, 0, 0⟩

def isHidden (location : Location) : Bool := location.startLine = hiddenLine

def text (l : Location) : String :=
  if l.isHidden then s!"{l.document}:<hidden>"
  else s!"{l.document}:{l.startLine}:{l.startColumn}-{l.endLine}:{l.endColumn}"

end Location

/-- A call in progress when an error arose. -/
structure StackFrame where
  method : String
  instruction : Nat
  location : Option Location
deriving DecidableEq, Repr

def StackFrame.text (frame : StackFrame) : String :=
  match frame.location with
  | some location => s!"at {frame.method} [{frame.instruction}] ({location.text})"
  | none => s!"at {frame.method} [{frame.instruction}]"

end Faultline
