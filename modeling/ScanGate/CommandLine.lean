import ScanGate.CommandLine.Grammar

/-! The commands: `scan` submits a file or an address, `report` runs the gate and
`report-pdf` downloads a report. All of them take a host and credentials. -/
namespace ScanGate.CommandLine

structure Connection where
  username : Option String := none
  password : Option String := none
  token : Option String := none
  host : Option String := none
  insecure : Bool := false
  config : Option String := none
  deriving DecidableEq, Repr

/-- Which product: one that is named, or the one that was saved. -/
structure Product where
  id : Option ProductId := none
  saved : Bool := false
  deriving DecidableEq

structure ScanOptions where
  connection : Connection
  file : Option String := none
  url : Option String := none
  group : Option String := none
  saveId : Bool := false
  deriving DecidableEq

structure ReportOptions where
  connection : Connection
  product : Product
  threshold : Option Threshold := none
  exceptVariable : Option String := none
  exceptUrl : Option String := none
  exceptFile : Option String := none
  format : Option Format := none
  output : Option String := none
  advisory : Bool := false
  deriving DecidableEq

structure PdfOptions where
  connection : Connection
  product : Product
  output : Option String := none
  deriving DecidableEq

inductive Command where
  | scan (options : ScanOptions)
  | report (options : ReportOptions)
  | reportPdf (options : PdfOptions)
  deriving DecidableEq

namespace Given

def value? (given : Given) (key : Key) : Option Value := (given.find? (·.1 == key)).map (·.2)

def text? (given : Given) (key : Key) : Option String :=
  match value? given key with
  | some (.text s) => some s
  | _ => none

def product? (given : Given) (key : Key) : Option ProductId :=
  match value? given key with
  | some (.product id) => some id
  | _ => none

def threshold? (given : Given) (key : Key) : Option Threshold :=
  match value? given key with
  | some (.threshold t) => some t
  | _ => none

def format? (given : Given) (key : Key) : Option Format :=
  match value? given key with
  | some (.format f) => some f
  | _ => none

def connection (given : Given) : Connection where
  username := text? given .username
  password := text? given .password
  token := text? given .token
  host := text? given .host
  insecure := Progress.has given .insecure
  config := text? given .config

def product (given : Given) : Product where
  id := product? given .productId
  saved := Progress.has given .savedId

end Given

def helpOption : Opt := { key := .help, long := "help", short := some 'h', shape := .help }

def versionOption : Opt :=
  { key := .version, long := "version", short := some 'V', shape := .version }

def connectionOptions : List Opt := [
  { key := .username, long := "username", placeholder := "USERNAME", shape := .text },
  { key := .password, long := "password", placeholder := "PASSWORD", shape := .text },
  { key := .token, long := "token", placeholder := "TOKEN", shape := .text },
  { key := .host, long := "host", placeholder := "HOST", shape := .host },
  { key := .insecure, long := "insecure", shape := .switch },
  { key := .config, long := "config", placeholder := "PATH", shape := .path }]

def productOptions : List Opt := [
  { key := .productId, long := "scan-id", placeholder := "ID", shape := .product },
  { key := .savedId, long := "scan-file", shape := .switch }]

def outputOption : Opt :=
  { key := .output, long := "output", short := some 'o', placeholder := "PATH", shape := .path }

/-- Every command has the rules on credentials: a token, or a user name and a
password that need each other. -/
def withConnection (g : Grammar) : Grammar where
  options := connectionOptions ++ g.options ++ [helpOption]
  exclusive := [.username, .token] :: g.exclusive
  required := [.username, .token] :: g.required
  needs := (.username, .password) :: (.password, .username) :: g.needs
  conflicts := (.token, .password) :: g.conflicts

def scanGrammar : Grammar := withConnection {
  options := [
    { key := .uploadFile, long := "scan-file", placeholder := "PATH", shape := .path },
    { key := .uploadUrl, long := "scan-url", placeholder := "URL", shape := .text },
    { key := .group, long := "scan-group", placeholder := "ID", shape := .text },
    { key := .saveId, long := "save-id", shape := .switch }]
  exclusive := [[.uploadFile, .uploadUrl]]
  required := [[.uploadFile, .uploadUrl]] }

def reportGrammar : Grammar := withConnection {
  options := productOptions ++ [
    { key := .threshold, long := "threshold", placeholder := "THRESHOLD", shape := .threshold },
    { key := .exceptVariable, long := "except-var", placeholder := "NAME", shape := .text },
    { key := .exceptUrl, long := "except-url", placeholder := "URL", shape := .text },
    { key := .exceptFile, long := "except-file", placeholder := "PATH", shape := .path },
    { key := .format, long := "format", short := some 'f', placeholder := "FORMAT"
      shape := .format },
    outputOption,
    { key := .advisory, long := "advisory-verdict", shape := .switch }]
  exclusive := [[.productId, .savedId], [.exceptVariable, .exceptUrl, .exceptFile]]
  required := [[.productId, .savedId]] }

def pdfGrammar : Grammar := withConnection {
  options := productOptions ++ [outputOption]
  exclusive := [[.productId, .savedId]]
  required := [[.productId, .savedId]] }

def scanOptions (given : Given) : ScanOptions where
  connection := Given.connection given
  file := Given.text? given .uploadFile
  url := Given.text? given .uploadUrl
  group := Given.text? given .group
  saveId := Progress.has given .saveId

def reportOptions (given : Given) : ReportOptions where
  connection := Given.connection given
  product := Given.product given
  threshold := Given.threshold? given .threshold
  exceptVariable := Given.text? given .exceptVariable
  exceptUrl := Given.text? given .exceptUrl
  exceptFile := Given.text? given .exceptFile
  format := Given.format? given .format
  output := Given.text? given .output
  advisory := Progress.has given .advisory

def pdfOptions (given : Given) : PdfOptions where
  connection := Given.connection given
  product := Given.product given
  output := Given.text? given .output

def commandNames : List String := ["scan", "report", "report-pdf", "help"]

/-- Help on a command that is named; help itself is one. -/
def help : List String → Problem
  | [] => .helpRequested
  | [name] => if commandNames.contains name then .helpRequested else .invalidSubcommand
  | _ => .invalidSubcommand

/-- What comes before a command: only a request for help or for the version. -/
def top : Grammar := { options := [helpOption, versionOption] }

def parse (args : List String) : Except Problem Command :=
  match args with
  | [] => .error .noSubcommand
  | name :: rest =>
    match name with
    | "scan" => (scanGrammar.parse rest).map fun given => .scan (scanOptions given)
    | "report" => (reportGrammar.parse rest).map fun given => .report (reportOptions given)
    | "report-pdf" => (pdfGrammar.parse rest).map fun given => .reportPdf (pdfOptions given)
    | "help" => .error (help rest)
    | _ =>
      match name.toList with
      | ['-', '-'] =>
        match rest with
        | [] => .error .noSubcommand
        | next :: _ =>
          .error (if commandNames.contains next then .unknownArgument else .invalidSubcommand)
      | '-' :: '-' :: cs => stop (top.readLong {} cs)
      | '-' :: c :: cs => stop (top.readShort {} (c :: cs))
      | _ => .error .invalidSubcommand
where
  /-- No option before the command lets the reading go on. -/
  stop : Except Problem Progress → Except Problem Command
    | .error problem => .error problem
    | .ok _ => .error .noSubcommand

end ScanGate.CommandLine
