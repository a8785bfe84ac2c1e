import ScanGate.Binary64
import ScanGate.Failure

/-! The severity threshold: the least CVSS score that counts, a whole number on
the scale from 0 to 10. -/
namespace ScanGate

structure Threshold where
  value : Nat
  value_le : value ≤ 10 := by decide
  deriving DecidableEq

namespace Threshold

/-- Scores under 4 are rated low. -/
def standard : Threshold := ⟨4, by decide⟩

def ofNat (n : Nat) : Except Failure Threshold :=
  if h : n ≤ 10 then .ok ⟨n, h⟩
  else .error (.configuration ("threshold " ++ toString n ++ " is out of range")
    "Use a CVSS score between 0 and 10")

def text (t : Threshold) : String := toString t.value

/-- Whether a score counts; the bound itself does, and what is not a number does not. -/
def admits (t : Threshold) (score : Binary64) : Bool := score.atLeast t.value

end Threshold

end ScanGate
