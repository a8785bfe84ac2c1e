import ScanGate.Decision
import ScanGate.Files
import ScanGate.Host
import ScanGate.View.Render
import ScanGate.Yaml.Value

/-! Settings: a YAML file with what a team does not want to repeat on its command
lines. Every entry is optional, and what the command line says wins. A name that is
not known is no failure, but it is told. -/
namespace ScanGate

/-- A word of the settings with what it means. -/
structure Choice (α : Type) where
  text : String
  value : α
  deriving DecidableEq, Repr

structure Settings where
  host : Option String := none
  threshold : Option Threshold := none
  group : Option String := none
  /-- The file with the waivers. -/
  waivers : Option String := none
  insecure : Option Bool := none
  policy : Option (Choice Policy) := none
  format : Option (Choice Format) := none
  /-- The names that are not known, in order, each once. -/
  unknown : List String := []
  deriving DecidableEq

namespace Settings

/-- The entries as they stand in the file. -/
structure Entries where
  host : Option String := none
  threshold : Option Nat := none
  group : Option String := none
  waivers : Option String := none
  insecure : Option Bool := none
  policy : Option String := none
  format : Option String := none
  unknown : List String := []

/-! ### Reading -/

def knownNames : List String :=
  ["host", "threshold", "scan_group", "exceptions_file", "insecure", "verdict_policy", "format"]

/-- How many collections may stand inside each other. -/
def maxDepth : Nat := 128

def Entries.add (d : Yaml.Document) (e : Entries) (name : String) (node : Yaml.Node) :
    Yaml.Decoder Entries := do
  match name with
  | "host" => return { e with host := ← d.optional d.text node }
  | "threshold" => return { e with threshold := ← d.optional d.byte node }
  | "scan_group" => return { e with group := ← d.optional d.text node }
  | "exceptions_file" => return { e with waivers := ← d.optional d.text node }
  | "insecure" => return { e with insecure := ← d.optional d.bool node }
  | "verdict_policy" => return { e with policy := ← d.optional d.text node }
  | "format" => return { e with format := ← d.optional d.text node }
  | _ =>
    let _ ← d.value (maxDepth - 1) node
    return { e with unknown := e.unknown ++ [name] }

/-- Reads the members; a known name is not repeated. -/
def Entries.addAll (d : Yaml.Document) (e : Entries) (names : List String) :
    List (Yaml.Node × Yaml.Node) → Yaml.Decoder Entries
  | [] => return e
  | (key, node) :: rest => do
    let name ← d.text key
    if names.contains name && knownNames.contains name then failure
    (← e.add d name node).addAll d (name :: names) rest

/-- The entries of a text; a text without a document has none. -/
def Entries.ofText? (text : String) : Option Entries := do
  match ← Yaml.parse? text with
  | none => return {}
  | some root =>
    let d : Yaml.Document := ⟨root⟩
    let read : Yaml.Decoder Entries := do Entries.addAll d {} [] (← d.members)
    (read.run d.patience).map (·.1)

/-! ### Checking -/

def fileName : String := "bdba-gate.config.yml"

/-- An entry that is not accepted. -/
def wrong (name reason : String) : Failure :=
  .configuration (name ++ ": " ++ reason)
    ("Fix the '" ++ name ++ "' entry in " ++ fileName)

def checkHost : Option String → Except Failure Unit
  | some host =>
    match Host.check host with
    | .ok () => .ok ()
    | .error failure => .error (wrong "host" failure.message)
  | none => .ok ()

def choice (name : String) (ofName : String → Except String α) :
    Option String → Except Failure (Option (Choice α))
  | some text =>
    match ofName text with
    | .ok value => .ok (some ⟨text, value⟩)
    | .error reason => .error (wrong name reason)
  | none => .ok none

def checkGroup (group : Option String) : Except Failure Unit :=
  if group.any (fun g => (Text.trimChars g.toList).isEmpty) then
    .error (wrong "scan_group" "must not be empty")
  else .ok ()

/-- The entries in their meaning, if all are accepted. -/
def ofEntries (e : Entries) : Except Failure Settings := do
  checkHost e.host
  let threshold ← e.threshold.mapM Threshold.ofNat
  let policy ← choice "verdict_policy" Policy.ofName e.policy
  let format ← choice "format" Format.ofName e.format
  checkGroup e.group
  return {
    host := e.host, threshold, group := e.group, waivers := e.waivers, insecure := e.insecure
    policy, format
    unknown := e.unknown.eraseDups.mergeSort fun a b => !(b < a) }

def ofText (text : String) : Except Failure Settings :=
  match Entries.ofText? text with
  | some entries => ofEntries entries
  | none => .error .malformedSettings

/-! ### Files -/

variable {m : Type → Type} [Monad m]

/-- The settings of a file that has to be there. -/
def load (s : System m) (path : String) : ExceptT Failure m Settings := do
  let text ← tryCatch (Files.readText s path "config file") fun failure =>
    throw (.context ("Failed to read config file: " ++ path ++
      Failure.hint "Check that the file exists and is readable.") failure)
  match ofText text with
  | .ok settings => return settings
  | .error .malformedSettings =>
    throw (.context ("Failed to parse config file: " ++ path ++
      Failure.hint "Ensure the file contains valid YAML syntax.") .malformedSettings)
  | .error failure => throw failure

/-- The settings of a directory, if it has any. -/
def discover (s : System m) (directory : String) : ExceptT Failure m (Option Settings) := do
  let path := Path.join directory fileName
  if ← s.exists? path then return some (← load s path) else return none

end Settings

end ScanGate
