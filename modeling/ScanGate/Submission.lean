import ScanGate.Console
import ScanGate.Service

/-! Submitting a scan. The scan itself goes on at the service; what is left behind
is the id of the new product, in a file if that is wanted. -/
namespace ScanGate.Submission

variable {m : Type → Type} [Monad m]

structure Request where
  target : Target
  group : String
  /-- Whether the id is kept for the report. -/
  keep : Bool := false
  deriving DecidableEq

def noGroup : Failure := .configuration "No scan group given"
  "Pass --scan-group or set scan_group in bdba-gate.config.yml"

/-- The group is sent without the blanks around it. -/
def run (service : Service m) (save : ProductId → ExceptT Failure m Unit)
    (say : Message → m Unit) (request : Request) : ExceptT Failure m ProductId := do
  if (Text.trimChars request.group.toList).isEmpty then throw noGroup
  say (.waiting ("Submitting " ++ request.target.text ++ " to BDBA group " ++ request.group ++
    "..."))
  let id ← service.submit request.target (Text.trim request.group)
  say (.report ("🔗 " ++ service.link id))
  if request.keep then
    save id
    say (.report "💾 Product id saved for the report step")
  say (.completion "✅ Scan submitted")
  return id

end ScanGate.Submission
