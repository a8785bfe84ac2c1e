import ScanGate.Report

/-! What is shown of a run. A `Response` is what a run of the gate found out; its
`View` is the flat picture of it that the text and the JSON rendering draw. -/
namespace ScanGate

structure Response where
  product : ProductId
  link : String
  status : Status
  verdict : Verdict
  detail : String
  threshold : Threshold
  /-- Only a report that is ready is evaluated. -/
  evaluation : Option Evaluation
  outcome : Outcome
  deriving DecidableEq

/-- The outcome without what it carries. -/
inductive OutcomeKind where
  | success
  | findingsPresent
  | retryLater
  | fatal
  deriving DecidableEq, Repr

def OutcomeKind.name : OutcomeKind → String
  | success => "success"
  | findingsPresent => "findings_present"
  | retryLater => "retry_later"
  | fatal => "fatal"

namespace Outcome

def kind : Outcome → OutcomeKind
  | success => .success
  | findingsPresent => .findingsPresent
  | retryLater => .retryLater
  | fatal _ => .fatal

/-- The outcome for a human reader. -/
def message : Outcome → String
  | success => "No unexcepted vulnerabilities found"
  | findingsPresent => "Vulnerabilities or unversioned components need review"
  | retryLater => "Results are not yet available, please retry later"
  | fatal obstacle => obstacle.text

end Outcome

structure VerdictView where
  short : String
  detailed : String
  pass : Bool
  deriving DecidableEq, Repr

structure FindingView where
  cve : String
  summary : String
  score : Binary64
  active : Bool
  /-- Ready to be pasted into the list of waivers. -/
  suggestion : Option WaiverList
  deriving DecidableEq, Repr

structure GroupView where
  library : String
  version : Option String
  latest : Option String
  findings : List FindingView
  deriving DecidableEq, Repr

structure View where
  product : String
  link : String
  status : String
  outcome : OutcomeKind
  exitCode : Int
  message : String
  verdict : Option VerdictView
  threshold : Nat
  groups : List GroupView
  unversioned : List String
  activeCount : Nat
  suppressedCount : Nat
  unversionedCount : Nat
  deriving DecidableEq, Repr

def Finding.view (active : Bool) (f : Finding) : FindingView where
  cve := f.cve
  summary := f.summary
  score := f.score
  active
  suggestion := if active then some f.suggestion else none

/-- Active findings come before suppressed ones. -/
def Group.view (g : Group) : GroupView where
  library := g.library
  version := g.version
  latest := g.latest
  findings := g.active.map (·.view true) ++ g.suppressed.map (·.view false)

/-- The service's verdict means nothing before the scan is ready. -/
def Response.verdictView (r : Response) : Option VerdictView :=
  if r.status = .ready then some ⟨r.verdict.text, r.detail, r.verdict.isPass⟩ else none

def View.ofResponse (r : Response) : View :=
  let evaluation := r.evaluation.getD {}
  { product := r.product.text
    link := r.link
    status := r.status.text
    outcome := r.outcome.kind
    exitCode := r.outcome.exitCode.toNat
    message := r.outcome.message
    verdict := r.verdictView
    threshold := r.threshold.value
    groups := evaluation.groups.map Group.view
    unversioned := evaluation.unversioned
    activeCount := evaluation.active.length
    suppressedCount := evaluation.suppressed.length
    unversionedCount := evaluation.unversioned.length }

end ScanGate
