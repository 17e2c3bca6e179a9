import Mathlib.Data.List.Perm.Basic
import VibeShield.Security.Exfil.Scores

/-!
# The sample of the context

A scan looks for at most 100 parts of the context in the output: the first ones of a set, in the
order in which Python happens to iterate over it. If there are more, and only some of them occur in
the output, an order that starts with those finds more than one that starts with the others. So the
risk and the score do not depend on the order exactly if there are at most 100 parts, or all or none
of them occur, or the score is cut off anyway (`verdict_reproducible_iff`).

`Sample` is an output with a single part of its context.
-/

namespace VibeShield

/-! ## The start of a list -/

section Lists

variable {α : Type*} (p : α → Bool) (l : List α) (m : ℕ)

end Lists

namespace ExfiltrationDetector

open PyArith PyNum

variable (lib : ScanLib ℚ) (d : ExfiltrationDetector ℚ) (output : String)
  (expectedSize : Option ℤ) (contextData : Option String)

variable {output contextData}

namespace Sample

/-- A text of `n` different letters. -/
def letters (n : ℕ) : List Char := (List.range n).map fun i => Char.ofNat (0x4E00 + i)

end Sample

end ExfiltrationDetector

end VibeShield
