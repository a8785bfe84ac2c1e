import ScanGate.Console
import ScanGate.Service
import ScanGate.Source

/-! One run of the gate: load the waivers, fetch the report once, decide. The
waivers come first, so that a broken source ends the run before the service is
asked. -/
namespace ScanGate.Gate

variable {m : Type → Type} [Monad m]

structure Request where
  product : ProductId
  threshold : Threshold := .standard
  source : Source := .absent
  policy : Policy := .enforce
  deriving DecidableEq

/-- The warning about a waiver that repeats an earlier one. -/
def duplicateWarning (source : Source) (w : Waiver) : Message :=
  .warning ("Duplicate exception entry for " ++ w.cve.getD "" ++ " " ++ w.library.getD "" ++
    " in " ++ source.text)

/-- Loads the waivers and tells about it; without a source there is nothing to
tell. -/
def loadWaivers (load : Source → ExceptT Failure m WaiverList) (say : Message → m Unit)
    (source : Source) : ExceptT Failure m WaiverList := do
  if source = .absent then return []
  say (.report ("📥 Loading exceptions from " ++ source.text))
  let ws ← load source
  say (.report ("✅ Loaded " ++ toString ws.length ++ " exception(s)"))
  for w in ws.duplicates do
    say (duplicateWarning source w)
  return ws

/-- The counts of an evaluation, as they are told. -/
def summary (e : Evaluation) : Message :=
  .completion ("📊 " ++ toString e.active.length ++ " active finding(s), " ++
    toString e.suppressed.length ++ " excepted, " ++ toString e.unversioned.length ++
    " component(s) without version")

/-- A scan that is not ready is an outcome; only what cannot be loaded, fetched or
read is a failure. -/
def run (service : Service m) (load : Source → ExceptT Failure m WaiverList)
    (say : Message → m Unit) (request : Request) : ExceptT Failure m Response := do
  let ws ← loadWaivers load say request.source
  say (.waiting ("Fetching BDBA report for product " ++ request.product.text ++ "..."))
  let report ← service.report request.product
  let link := service.link request.product
  say (.report ("🔗 Report: " ++ link))
  let response (evaluation : Option Evaluation) (outcome : Outcome) : Response := {
    product := request.product, link, status := report.status, verdict := report.verdict
    detail := report.detail, threshold := request.threshold, evaluation, outcome }
  match Outcome.ofStatus? report.status with
  | some outcome =>
    say (.completion ("⏳ Scan status: " ++ report.status.text))
    return response none outcome
  | none =>
    say (.report ("🔍 Evaluating " ++ toString report.components.length ++
      " component(s) at CVSS >= " ++ request.threshold.text ++ "..."))
    let evaluation := Evaluation.ofComponents report.components request.threshold ws
    say (summary evaluation)
    return response (some evaluation) (.ofReady report.verdict evaluation request.policy)

end ScanGate.Gate
