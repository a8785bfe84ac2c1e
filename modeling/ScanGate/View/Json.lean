import ScanGate.View

/-! The view as a JSON document, for dashboards. A suggestion is a member only
where there is one; every other absent text is `null`. -/
namespace ScanGate

def VerdictView.toJson (v : VerdictView) : Json :=
  .record [("short", .text v.short), ("detailed", .text v.detailed), ("pass", .bool v.pass)]

def FindingView.toJson (f : FindingView) : Json :=
  .record ([("cve", .text f.cve), ("summary", .text f.summary), ("cvss", Json.real f.score),
    ("status", .text (if f.active then "active" else "excepted"))] ++
    match f.suggestion with
    | some ws => [("suggested_exception", ws.toJson)]
    | none => [])

def GroupView.toJson (g : GroupView) : Json :=
  .record [("library", .text g.library), ("version", .optionalText g.version),
    ("latest_version", .optionalText g.latest),
    ("findings", .array (g.findings.map FindingView.toJson))]

namespace View

def toJson (v : View) : Json :=
  .record [
    ("product_id", .text v.product),
    ("product_url", .text v.link),
    ("scan_status", .text v.status),
    ("outcome", .text v.outcome.name),
    ("exit_code", .number (toString v.exitCode)),
    ("message", .text v.message),
    ("backend_verdict", (v.verdict.map VerdictView.toJson).getD .null),
    ("threshold", .nat v.threshold),
    ("components", .array (v.groups.map GroupView.toJson)),
    ("components_without_version", .array (v.unversioned.map Json.text)),
    ("summary", .record [
      ("active", .nat v.activeCount),
      ("excepted", .nat v.suppressedCount),
      ("components_without_version", .nat v.unversionedCount)])]

/-- The document and a line feed. -/
def json (v : View) : String := v.toJson.pretty ++ "\n"

end View

end ScanGate
