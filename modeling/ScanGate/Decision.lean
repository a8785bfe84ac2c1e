import ScanGate.Evaluation

/-! The decision of the gate. The status of the scan comes first; a report that
is ready passes when nothing is active, no component lacks a version it needs,
and the service's own verdict is a pass or does not matter. -/
namespace ScanGate

/-- How far the scan is. -/
inductive Status where
  | busy
  | failed
  | ready
  /-- A code that is not known, kept as it came. -/
  | unknown (code : String)
  deriving DecidableEq, Repr

namespace Status

def ofCode (code : String) : Status :=
  if code = "B" then busy
  else if code = "F" then failed
  else if code = "R" then ready
  else unknown code

def text : Status → String
  | busy => "busy"
  | failed => "failed"
  | ready => "ready"
  | unknown code => code

end Status

/-- What the service itself thinks of the scan. -/
inductive Verdict where
  | pass
  | verify
  | vulnerable
  | unknown (name : String)
  deriving DecidableEq, Repr

namespace Verdict

def ofName (name : String) : Verdict :=
  if name = "Pass" then pass
  else if name = "Verify" then verify
  else if name = "Vulns" then vulnerable
  else unknown name

def text : Verdict → String
  | pass => "Pass"
  | verify => "Verify"
  | vulnerable => "Vulns"
  | unknown name => name

def isPass : Verdict → Bool
  | pass => true
  | _ => false

end Verdict

/-- Whether the service's verdict has to be a pass. -/
inductive Policy where
  | enforce
  | advisory
  deriving DecidableEq, Repr, Inhabited

namespace Policy

/-- Upper and lower case of the letters A to Z are the same. -/
def ofName (name : String) : Except String Policy :=
  match name.map Char.toLower with
  | "enforce" => .ok enforce
  | "advisory" => .ok advisory
  | _ => .error ("Invalid verdict policy: " ++ name ++
      ". Please specify 'enforce' or 'advisory'")

def text : Policy → String
  | enforce => "enforce"
  | advisory => "advisory"

def requiresPass : Policy → Bool
  | enforce => true
  | advisory => false

end Policy

/-- Why there is no decision. -/
inductive Obstacle where
  | scanFailed
  | unknownStatus (code : String)
  deriving DecidableEq, Repr

def Obstacle.text : Obstacle → String
  | scanFailed => "Scan failed. Please refer to the BDBA console"
  | unknownStatus code => "Could not parse results (unknown scan status '" ++ code ++
      "'). Check the BDBA console"

/-- The exit codes of the command line. -/
inductive ExitCode where
  | success
  | findingsPresent
  | invalidArguments
  | applicationError
  deriving DecidableEq, Repr

namespace ExitCode

def toNat : ExitCode → Nat
  | success => 0
  | findingsPresent => 1
  | invalidArguments => 2
  | applicationError => 3

def text : ExitCode → String
  | success => "Success (0)"
  | findingsPresent => "Findings Present (1)"
  | invalidArguments => "Invalid Arguments (2)"
  | applicationError => "Application Error (3)"

end ExitCode

inductive Outcome where
  | success
  | findingsPresent
  | retryLater
  | fatal (obstacle : Obstacle)
  deriving DecidableEq, Repr

namespace Outcome

def exitCode : Outcome → ExitCode
  | success => .success
  | findingsPresent => .findingsPresent
  | retryLater => .applicationError
  | fatal _ => .applicationError

/-- What the status alone decides; nothing for a scan that is ready. -/
def ofStatus? : Status → Option Outcome
  | .busy => some retryLater
  | .failed => some (fatal .scanFailed)
  | .unknown code => some (fatal (.unknownStatus code))
  | .ready => none

/-- The decision on a report that is ready. -/
def ofReady (v : Verdict) (e : Evaluation) (p : Policy) : Outcome :=
  if (v.isPass || !p.requiresPass) && !e.hasActive && !e.hasUnversioned then success
  else findingsPresent

/-- The whole table: status first. -/
def decide (s : Status) (v : Verdict) (e : Evaluation) (p : Policy) : Outcome :=
  (ofStatus? s).getD (ofReady v e p)

end Outcome

end ScanGate
