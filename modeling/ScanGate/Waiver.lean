import ScanGate.Failure
import ScanGate.Json.Decode
import ScanGate.Json.Printer
import ScanGate.Json.Reader

/-! Waivers. A waiver names one finding that the gate is to pass over: library,
version, vulnerability and the fingerprint of the place. Users keep a list of
them as JSON, where each field may be missing or `null`. -/
namespace ScanGate

structure Waiver where
  cve : Option String := none
  library : Option String := none
  version : Option String := none
  fingerprint : Option String := none
  deriving DecidableEq, Repr, Inhabited

namespace Waiver

/-- Without library, vulnerability or fingerprint a waiver fits no finding. A
missing version is the version of a component that has none. -/
def isPlaceholder (w : Waiver) : Bool :=
  w.library.isNone || w.cve.isNone || w.fingerprint.isNone

def toJson (w : Waiver) : Json :=
  .record [("cve", .optionalText w.cve), ("lib", .optionalText w.library),
    ("vers", .optionalText w.version), ("hash", .optionalText w.fingerprint)]

def ofJson? (value : Json) : Option Waiver := do
  match ← value.fields ["cve", "lib", "vers", "hash"] with
  | [cve, library, version, fingerprint] =>
    return {
      cve := ← Json.optional Json.text? cve
      library := ← Json.optional Json.text? library
      version := ← Json.optional Json.text? version
      fingerprint := ← Json.optional Json.text? fingerprint }
  | _ => none

end Waiver

/-- The user's waivers in the order of the list. -/
abbrev WaiverList := List Waiver

namespace WaiverList

def toJson (ws : WaiverList) : Json :=
  .record [("exceptions", .array (ws.map Waiver.toJson))]

/-- The list on one line, as it is pasted into a variable. -/
def text (ws : WaiverList) : String := (toJson ws).compact

def ofJson? (value : Json) : Option WaiverList := do
  match ← value.fields ["exceptions"] with
  | [list] => Json.required (Json.list Waiver.ofJson?) list
  | _ => none

def ofText? (text : String) : Option WaiverList := (Json.read? text).bind ofJson?

def parse (text : String) : Except Failure WaiverList :=
  match ofText? text with
  | some ws => .ok ws
  | none => .error .malformedWaivers

/-- The waivers that repeat an earlier one, placeholders left out. -/
def repeated (seen : List Waiver) : WaiverList → List Waiver
  | [] => []
  | w :: ws =>
    if w.isPlaceholder then repeated seen ws
    else if w ∈ seen then w :: repeated seen ws
    else repeated (w :: seen) ws

def duplicates (ws : WaiverList) : List Waiver := repeated [] ws

end WaiverList

end ScanGate
