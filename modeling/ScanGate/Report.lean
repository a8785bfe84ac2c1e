import ScanGate.Decision
import ScanGate.ProductId

/-! The answers of the scan service. A report has a status, a verdict and the
components found; almost every field may be missing or `null` and then stands
for nothing. The answer to a submission has the id of the new product. -/
namespace ScanGate

structure Report where
  status : Status
  verdict : Verdict
  detail : String
  components : List Component
  deriving DecidableEq, Repr

namespace Report

/-- The arrays and objects open around the exactness of a vulnerability. -/
def exactDepth : Nat := 6

/-- An exact match is `true` or a number other than zero. -/
def exactness? (value : Json) : Option Bool := do
  match ← value.whole? exactDepth with
  | .bool b => return b
  | .number literal => return (Json.numberOf literal).any fun n => !n.toBinary64.isZero
  | _ => return false

/-- Name, summary and score of a vulnerability. -/
def details? (value : Json) : Option (String × String × Binary64) := do
  match ← value.fields ["cve", "summary", "cvss"] with
  | [cve, summary, cvss] =>
    return (← Json.orDefault "" Json.text? cve, ← Json.orDefault "" Json.text? summary,
      ← Json.orDefault .zero Json.real? cvss)
  | _ => none

/-- A vulnerability is triaged when it has that field, whatever the value. -/
def vulnerability? (value : Json) : Option Vulnerability := do
  match ← value.fields ["vuln", "exact", "triage"] with
  | [vuln, exact, triage] =>
    let (cve, summary, score) ← Json.orDefault ("", "", .zero) details? vuln
    let exact ← match exact with
      | none => some false
      | some value => exactness? value
    return { cve, summary, score, exact, triaged := triage.isSome }
  | _ => none

def counts? (value : Json) : Option (UInt32 × UInt32) := do
  match ← value.fields ["total", "historical"] with
  | [total, historical] =>
    return (← Json.orDefault 0 Json.word? total, ← Json.orDefault 0 Json.word? historical)
  | _ => none

def place? (value : Json) : Option Place := do
  match ← value.fields ["fullpath"] with
  | [path] => Json.orDefault [] (Json.list Json.text?) path
  | _ => none

/-- The latest version has two spellings; the one with the underscore counts
more. -/
def component? (value : Json) : Option Component := do
  match ← value.fields ["lib", "version", "vuln-count", "latest_version", "latest-version",
      "extended-objects", "vulns"] with
  | [lib, version, counts, latest, latest', places, vulns] =>
    let (total, historical) ← Json.orDefault (0, 0) counts? counts
    let underscored ← Json.optional Json.text? latest
    let dashed ← Json.optional Json.text? latest'
    return {
      library := ← Json.orDefault "" Json.text? lib
      version := ← Json.optional Json.text? version
      latest := underscored <|> dashed
      places := ← Json.orDefault [] (Json.list place?) places
      total, historical
      vulnerabilities := ← Json.orDefault [] (Json.list vulnerability?) vulns }
  | _ => none

/-- Short and detailed verdict. -/
def verdict? (value : Json) : Option (String × String) := do
  match ← value.fields ["short", "detailed"] with
  | [short, detailed] =>
    return (← Json.orDefault "" Json.text? short, ← Json.orDefault "" Json.text? detailed)
  | _ => none

def summary? (value : Json) : Option (String × String) := do
  match ← value.fields ["verdict"] with
  | [verdict] => Json.orDefault ("", "") verdict? verdict
  | _ => none

def results? (value : Json) : Option Report := do
  match ← value.fields ["status", "summary", "components"] with
  | [status, summary, components] =>
    let status ← Json.required Json.text? status
    let (short, detail) ← Json.orDefault ("", "") summary? summary
    let components ← Json.orDefault [] (Json.list component?) components
    return ⟨.ofCode status, .ofName short, detail, components⟩
  | _ => none

def ofJson? (value : Json) : Option Report := do
  match ← value.fields ["results"] with
  | [results] => Json.required results? results
  | _ => none

def parse (body : String) : Except Failure Report :=
  match (Json.read? body).bind ofJson? with
  | some report => .ok report
  | none => .error .malformedReport

end Report

namespace ProductId

/-- The arrays and objects open around the id. -/
def answerDepth : Nat := 2

/-- The value given as id in the answer to a submission. -/
def field? (value : Json) : Option Json := do
  match ← value.fields ["results"] with
  | [results] =>
    match ← Json.required (Json.fields ["product_id"]) results with
    | [id] => Json.required (Json.whole? answerDepth) id
    | _ => none
  | _ => none

/-- The id in the answer to a submission, a number or a text. -/
def parse (body : String) : Except Failure ProductId :=
  match (Json.read? body).bind field? with
  | none => .error .malformedSubmission
  | some (.number literal) => ofString (((Json.numberOf literal).map Json.Number.text).getD "")
  | some (.string text) => ofString (text.getD "")
  | some value => .error (.unexpectedProductId value.normal.compact)

end ProductId

end ScanGate
