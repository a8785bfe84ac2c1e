import ScanGate.Sha1
import ScanGate.Threshold

/-! What a report says about one third-party component: its name and version,
the places in the artifact where it was found, how many vulnerabilities it has
and had, and the ones that are listed. -/
namespace ScanGate

structure Vulnerability where
  cve : String := ""
  summary : String := ""
  score : Binary64 := .zero
  /-- Whether the vulnerability is known to apply to this very version. -/
  exact : Bool := true
  /-- Whether somebody has already looked at it. -/
  triaged : Bool := false
  deriving DecidableEq, Repr

/-- Whether the vulnerability counts under a threshold. -/
def Vulnerability.isCandidate (v : Vulnerability) (t : Threshold) : Bool :=
  v.exact && !v.triaged && t.admits v.score

/-- The way into the artifact to a component: the outermost archive first, the
innermost file last. -/
abbrev Place := List String

namespace Place

/-- The places run together after a slash, without separators. -/
def joined (places : List Place) : List Char :=
  '/' :: (places.flatMap id).flatMap String.toList

/-- The SHA-1 of the places run together: the same places in the same order give
the same fingerprint. -/
def fingerprint (places : List Place) : String :=
  String.ofList (Sha1.hex (String.ofList (joined places)).toUTF8.toList)

end Place

structure Component where
  library : String := ""
  version : Option String := none
  latest : Option String := none
  places : List Place := []
  /-- All vulnerabilities ever reported for the component. -/
  total : UInt32 := 0
  /-- Those of them that no longer matter. -/
  historical : UInt32 := 0
  vulnerabilities : List Vulnerability := []
  deriving DecidableEq, Repr

namespace Component

def fingerprint (c : Component) : String := Place.fingerprint c.places

def isHistoricalOnly (c : Component) : Bool := c.total == c.historical

/-- Whether there may be vulnerabilities that are not historical. -/
def hasNew (c : Component) : Bool := c.total != 0 && !c.isHistoricalOnly

/-- A component without a version that has, or had, vulnerabilities cannot be
cleared. -/
def isAmbiguous (c : Component) : Bool := c.version.isNone && c.total != 0

def candidates (c : Component) (t : Threshold) : List Vulnerability :=
  c.vulnerabilities.filter (·.isCandidate t)

end Component

end ScanGate
