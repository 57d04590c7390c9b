import Faultline.Code.Module
import Faultline.Digest.Blake3

namespace Faultline

/-- A byte string preceded by its length in eight bytes. -/
def framed (part : Bytes) : Bytes := littleEndian 8 part.length ++ part

/-- What is digested of a list of byte strings: each of them framed, so that the borders between them count. -/
def framedParts (parts : List Bytes) : Bytes := parts.flatMap framed

def fingerprintOf (parts : List Bytes) : String := hexText (blake3 (framedParts parts))

/-- The fingerprint of this library's way of instrumenting, which changes whenever the sites or the
instructions behind them do. -/
def currentFingerprint : String := fingerprintOf [textBytes "hook protocol 1", textBytes "sites 1"]

/-- The metadata key of a module's stamp. -/
def stampKey : String := "ivmp.rewriter.fingerprint"

/-- Whether a module was instrumented, and if so in the way that the fingerprint at hand stands for. -/
inductive Stamp where
  | unstamped
  | current
  | stale (found : String)
deriving DecidableEq

namespace Module

def stampOf (module : Module) (fingerprint : String) : Stamp :=
  match module.metadata.get? stampKey with
  | none => .unstamped
  | some found => if found = fingerprint then .current else .stale found

def stamp (module : Module) (fingerprint : String) : Module :=
  { module with metadata := module.metadata.insert stampKey fingerprint }

end Module

end Faultline
