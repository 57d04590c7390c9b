import Faultline.Proofs.Bytes
import Faultline.Site.Fingerprint

namespace Faultline

variable {part part' rest rest' : Bytes} {parts parts' : List Bytes}

/-- A framed part ends where its length says, whatever it holds and whatever follows it. -/
theorem framed_append_inj (fits : part.length < 2 ^ 64) (fits' : part'.length < 2 ^ 64)
    (same : framed part ++ rest = framed part' ++ rest') : part = part' ∧ rest = rest' := by
  rw [framed, framed, List.append_assoc, List.append_assoc] at same
  obtain ⟨lengths, contents⟩ := List.append_inj same (by rw [length_littleEndian, length_littleEndian])
  exact List.append_inj contents (littleEndian_inj fits fits' lengths)

/-- The borders between framed parts can be told even where parts hold what looks like a length, and where one
list goes on after the end of the other. -/
theorem framedParts_inj (fits : ∀ part ∈ parts, part.length < 2 ^ 64)
    (fits' : ∀ part ∈ parts', part.length < 2 ^ 64) :
    framedParts parts = framedParts parts' ↔ parts = parts' := by
  refine ⟨fun same => ?_, fun same => same ▸ rfl⟩
  have nonempty (part : Bytes) : framed part ≠ [] := List.append_ne_nil_of_left_ne_nil (List.cons_ne_nil _ _) part
  exact flatMap_inj nonempty
    (fun part listed part' listed' _ _ => framed_append_inj (fits part listed) (fits' part' listed')) same

/-- What is digested of two different lists of parts differs, and nothing but a collision of the two digests
gives the lists the same fingerprint. -/
theorem fingerprintOf_separates (fits : ∀ part ∈ parts, part.length < 2 ^ 64)
    (fits' : ∀ part ∈ parts', part.length < 2 ^ 64) (differ : parts ≠ parts') :
    framedParts parts ≠ framedParts parts' ∧
      (fingerprintOf parts = fingerprintOf parts' ↔ blake3 (framedParts parts) = blake3 (framedParts parts')) := by
  refine ⟨fun same => ?_, ?_⟩
  · exact differ ((framedParts_inj fits fits').1 same)
  · rw [fingerprintOf, fingerprintOf, hexText_inj]

def twoParts : List Bytes := [textBytes "a", textBytes "b"]

/-- One part, which holds the first of the two and then the frame of the second. -/
def imitatingParts : List Bytes := [textBytes "a" ++ framed (textBytes "b")]

/-- A single part that imitates the frame of two. -/
theorem fingerprintOf_separates_imitating :
    (∀ part ∈ twoParts, part.length < 2 ^ 64) ∧ (∀ part ∈ imitatingParts, part.length < 2 ^ 64) ∧
      twoParts ≠ imitatingParts ∧
      framedParts twoParts ≠ framedParts imitatingParts ∧ fingerprintOf twoParts ≠ fingerprintOf imitatingParts := by
  have fits : ∀ part ∈ twoParts, part.length < 2 ^ 64 := by decide
  have fits' : ∀ part ∈ imitatingParts, part.length < 2 ^ 64 := by decide
  have differ : twoParts ≠ imitatingParts := by decide
  have digests : blake3 (framedParts twoParts) ≠ blake3 (framedParts imitatingParts) := by decide +kernel
  obtain ⟨streams, collide⟩ := fingerprintOf_separates fits fits' differ
  exact ⟨fits, fits', differ, streams, fun same => digests (collide.1 same)⟩

end Faultline
