import ScanGate.Component
import ScanGate.Waiver

/-! The evaluation of a report. Every component with new vulnerabilities and at
least one candidate gives a group of findings; a finding is suppressed when the
waiver suggested for it is on the list, and active otherwise. Components are
taken one by one and in order. -/
namespace ScanGate

/-- A vulnerability of a component that counts. -/
structure Finding where
  library : String := ""
  version : Option String := none
  cve : String := ""
  summary : String := ""
  score : Binary64 := .zero
  fingerprint : String := ""
  deriving DecidableEq, Repr

namespace Finding

/-- The waiver that suppresses exactly the findings like this one. -/
def waiver (f : Finding) : Waiver := ⟨some f.cve, some f.library, f.version, some f.fingerprint⟩

/-- The list of that waiver alone. -/
def suggestion (f : Finding) : WaiverList := [f.waiver]

end Finding

/-- Whether a waiver applies to a finding: all four fields agree, and none of the
three that a placeholder lacks is missing. -/
def Waiver.fits (w : Waiver) (f : Finding) : Bool :=
  !w.isPlaceholder && w.library == some f.library && w.version == f.version &&
    w.cve == some f.cve && w.fingerprint == some f.fingerprint

namespace WaiverList

/-- The first waiver that applies. -/
def match? (ws : WaiverList) (f : Finding) : Option Waiver := ws.find? (·.fits f)

def position? (ws : WaiverList) (f : Finding) : Option Nat := ws.findIdx? (·.fits f)

def covers (ws : WaiverList) (f : Finding) : Bool := (ws.match? f).isSome

end WaiverList

/-- The findings of one component. -/
structure Group where
  library : String
  version : Option String := none
  latest : Option String := none
  active : List Finding := []
  suppressed : List Finding := []
  deriving DecidableEq, Repr

structure Evaluation where
  groups : List Group := []
  /-- The libraries that have no version and cannot be cleared. -/
  unversioned : List String := []
  deriving DecidableEq, Repr, Inhabited

namespace Component

/-- The finding that a candidate of the component gives. -/
def finding (c : Component) (fingerprint : String) (v : Vulnerability) : Finding :=
  ⟨c.library, c.version, v.cve, v.summary, v.score, fingerprint⟩

/-- The findings of a component's candidates, in the order of the report. -/
def findings (c : Component) (t : Threshold) : List Finding :=
  let fingerprint := c.fingerprint
  (c.candidates t).map (c.finding fingerprint)

/-- The group of a component, if it has a candidate. -/
def group? (c : Component) (t : Threshold) (ws : WaiverList) : Option Group :=
  match c.candidates t with
  | [] => none
  | _ =>
    let findings := c.findings t
    some {
      library := c.library
      version := c.version
      latest := c.latest
      active := findings.filter (!ws.covers ·)
      suppressed := findings.filter (ws.covers ·) }

end Component

namespace Evaluation

def ofComponents (cs : List Component) (t : Threshold) (ws : WaiverList) : Evaluation where
  groups := (cs.filter (·.hasNew)).filterMap (·.group? t ws)
  unversioned := (cs.filter (·.isAmbiguous)).map (·.library)

def active (e : Evaluation) : List Finding := e.groups.flatMap (·.active)

def suppressed (e : Evaluation) : List Finding := e.groups.flatMap (·.suppressed)

def hasActive (e : Evaluation) : Bool := e.groups.any (!·.active.isEmpty)

def hasUnversioned (e : Evaluation) : Bool := !e.unversioned.isEmpty

/-- 0 when nothing is active, 1 otherwise. -/
def verdict (e : Evaluation) : Nat := if e.hasActive then 1 else 0

end Evaluation

end ScanGate
