import ScanGate.View

/-! The view as text for a console, line by line. Every active finding is
followed by the waiver that suppresses it. Colours are escape sequences around
the painted words and change nothing else. -/
namespace ScanGate

inductive Tint where
  | red
  | green
  | yellow
  deriving DecidableEq, Repr

namespace Tint

def escape : Char := Char.ofNat 27

def start : Tint → List Char
  | red => escape :: ['[', '3', '1', 'm']
  | green => escape :: ['[', '3', '2', 'm']
  | yellow => escape :: ['[', '3', '3', 'm']

/-- Back to the colour of the console. -/
def stop : List Char := escape :: ['[', '3', '9', 'm']

/-- The text in a colour, if there are colours at all. -/
def paint (colored : Bool) (tint : Tint) (text : String) : String :=
  if colored then String.ofList (tint.start ++ text.toList ++ stop) else text

end Tint

def OutcomeKind.tint : OutcomeKind → Tint
  | success => .green
  | retryLater => .yellow
  | findingsPresent => .red
  | fatal => .red

/-- The lines of a finding. -/
def FindingView.lines (colored : Bool) (f : FindingView) : List String :=
  let line := f.cve ++ ": " ++ f.summary
  if f.active then
    ("    " ++ Tint.red.paint colored line) ::
      match f.suggestion with
      | some ws => ["Exclude this finding in all current paths using:", " " ++ ws.text]
      | none => []
  else ["    " ++ Tint.green.paint colored ("EXCEPTION: " ++ line)]

/-- An empty line, the component, and its findings. -/
def GroupView.lines (colored : Bool) (g : GroupView) : List String :=
  let latest := match g.latest with
    | some version => " (latest version: " ++ version ++ ")"
    | none => ""
  "" :: ("Component: " ++ g.library ++ " " ++ g.version.getD "(no version)" ++ latest) ::
    g.findings.flatMap (·.lines colored)

namespace View

/-- The service's verdict and the threshold, for a scan that is ready. -/
def verdictLines (colored : Bool) (v : View) : List String :=
  match v.verdict with
  | none => []
  | some verdict =>
    let tint := if verdict.pass then Tint.green else Tint.red
    let line := if verdict.detailed.isEmpty then verdict.short
      else verdict.short ++ " - " ++ verdict.detailed
    ["Verdict: " ++ tint.paint colored line, "Threshold: CVSS >= " ++ toString v.threshold]

def unversionedLines (colored : Bool) (v : View) : List String :=
  if v.unversioned.isEmpty then []
  else
    ["", Tint.red.paint colored "Components with NO version and vulnerabilities:"] ++
      v.unversioned.map ("    " ++ ·) ++
      ["Please review the BDBA console as there are vulnerable components " ++
        "with no associated version"]

def resultLines (colored : Bool) (v : View) : List String :=
  ["", "Result: " ++ v.outcome.tint.paint colored v.message ++
    " (exit code " ++ toString v.exitCode ++ ")"]

def lines (colored : Bool) (v : View) : List String :=
  ["BDBA report: " ++ v.link, "Scan status: " ++ v.status] ++ v.verdictLines colored ++
    v.groups.flatMap (·.lines colored) ++ v.unversionedLines colored ++ v.resultLines colored

/-- The lines, each with its line feed. -/
def text (colored : Bool) (v : View) : String :=
  String.join ((v.lines colored).map (· ++ "\n"))

end View

end ScanGate
