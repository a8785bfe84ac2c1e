import ScanGate.CommandLine
import ScanGate.Download
import ScanGate.Gate
import ScanGate.IdFile
import ScanGate.Settings
import ScanGate.Submission

/-! A run of a command from its options to its exit code. The settings are read
first, then the client is made; what the command line says wins over the settings.
A failure is told on the error stream and has an exit code of its own; nothing goes
to the output stream before everything else has succeeded. -/
namespace ScanGate.Run

open CommandLine

variable {m : Type → Type} [Monad m]

/-! ### Preparation -/

/-- There are colours unless this variable is set, to whatever value. -/
def isColored (s : System m) : m Bool := return (← s.lookup? "NO_COLOR").isNone

def tell (s : System m) (colored : Bool) (message : Message) : m Unit :=
  s.error (message.render colored)

def unknownWarning (name : String) : Message :=
  .warning ("Unknown config field '" ++ name ++ "' will be ignored.")

/-- The settings of the file that is named, or of the working directory. -/
def loadSettings (s : System m) (say : Message → m Unit) (path : Option String) :
    ExceptT Failure m Settings := do
  let settings ← match path with
    | some path => Settings.load s path
    | none => do
      let found ← Settings.discover s "."
      pure (found.getD {})
  for name in settings.unknown do
    say (unknownWarning name)
  return settings

def noHost : Failure :=
  .configuration "No BDBA host given" ("Pass --host or set host in " ++ Settings.fileName)

def noCredentials : Failure :=
  .configuration "Authentication has to be provided"
    "Use either --token or --username with --password"

/-- A token, or a user name with a password. -/
def credentials (token username password : Option String) : Except Failure Credentials :=
  match token, username, password with
  | some token, none, none => .ok (.bearer token)
  | none, some username, some password => .ok (.basic username password)
  | _, _, _ => .error noCredentials

def insecureWarning : Message := .warning "TLS certificate verification is disabled"

def makeClient (say : Message → m Unit) (c : Connection) (settings : Settings) :
    ExceptT Failure m Client := do
  let some host := c.host <|> settings.host
    | throw noHost
  let insecure := c.insecure || settings.insecure.getD false
  if insecure then say insecureWarning
  let credentials ← credentials c.token c.username c.password
  return Client.ofHost host credentials insecure

/-- Settings and client, which every command needs. -/
def prepare (s : System m) (say : Message → m Unit) (c : Connection) :
    ExceptT Failure m (Settings × Client) := do
  let settings ← loadSettings s say c.config
  return (settings, ← makeClient say c settings)

/-- The product that is named, or the one that was kept. -/
def chooseProduct (s : System m) (product : Product) : ExceptT Failure m ProductId :=
  match product.id with
  | some id => return id
  | none => IdFile.load s IdFile.path

/-! ### Commands -/

def scan (s : System m) (colored : Bool) (o : ScanOptions) : ExceptT Failure m ExitCode := do
  let say := tell s colored
  let (settings, client) ← prepare s say o.connection
  let target ← match o.file, o.url with
    | some path, _ => pure (Target.file path)
    | none, some address => pure (Target.url address)
    | none, none => throw .noTarget
  let group := (o.group <|> settings.group).getD ""
  let id ← Submission.run (client.service s) (IdFile.save s IdFile.path) say
    { target, group, keep := o.saveId }
  s.output ("Product ID: " ++ id.text ++ "\n")
  return .success

/-- The request for a report: every choice comes from the options, from the settings
or from the defaults, in this order. -/
def request (o : ReportOptions) (settings : Settings) (product : ProductId) : Gate.Request where
  product := product
  threshold := (o.threshold <|> settings.threshold).getD .standard
  source := .choose o.exceptVariable o.exceptUrl o.exceptFile settings.waivers
  policy :=
    if o.advisory then .advisory else (settings.policy.map (·.value)).getD .enforce

def format (o : ReportOptions) (settings : Settings) : Format :=
  (o.format <|> settings.format.map (·.value)).getD .text

/-- A report in a file has no colours. -/
def report (s : System m) (colored : Bool) (o : ReportOptions) :
    ExceptT Failure m ExitCode := do
  let say := tell s colored
  let (settings, client) ← prepare s say o.connection
  let product ← chooseProduct s o.product
  let response ← Gate.run (client.service s) (Source.load s) say (request o settings product)
  let text := (View.ofResponse response).render (format o settings)
    (colored && o.output.isNone)
  match o.output with
  | some path => Files.present s path text
  | none => s.output text
  return response.outcome.exitCode

def reportPdf (s : System m) (colored : Bool) (o : PdfOptions) :
    ExceptT Failure m ExitCode := do
  let say := tell s colored
  let (_, client) ← prepare s say o.connection
  let product ← chooseProduct s o.product
  let path := o.output.getD product.pdfName
  let content ← Download.run (client.service s) say product
  Files.writeBytes s path content
  say (.completion ("✅ PDF report saved: " ++ path))
  return .success

def command (s : System m) (colored : Bool) : Command → ExceptT Failure m ExitCode
  | .scan o => scan s colored o
  | .report o => report s colored o
  | .reportPdf o => reportPdf s colored o

/-- A failure with everything beneath it, as it is told at the end of a run. -/
def explain (failure : Failure) : String :=
  "\n❌ An error occurred:\n\n" ++ failure.message ++ "\n" ++
    String.join (failure.causes.map fun cause => "\nCaused by: " ++ cause ++ "\n") ++ "\n"

/-- Runs a command; a failure becomes its explanation and its exit code. -/
def run (s : System m) (c : Command) : m ExitCode := do
  let colored ← isColored s
  match ← (command s colored c).run with
  | .ok code => return code
  | .error failure =>
    s.error (explain failure)
    return .applicationError

end ScanGate.Run
