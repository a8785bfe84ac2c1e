import ScanGate.Client
import ScanGate.Waiver

/-! Where the waivers come from: a variable, an address or a file. A source that
cannot be read as a whole is a failure and never an empty list. -/
namespace ScanGate

inductive Source where
  | absent
  | environment (name : String)
  | address (url : String)
  | file (path : String)
  deriving DecidableEq, Repr, Inhabited

namespace Source

variable {m : Type → Type} [Monad m]

def text : Source → String
  | absent => "no exception source"
  | environment name => "environment variable " ++ name
  | address url => "url " ++ url
  | file path => "file " ++ path

/-- The source given on the command line wins; the file of the settings is the
fallback. -/
def choose (name url path configured : Option String) : Source :=
  match name, url, path <|> configured with
  | some name, _, _ => environment name
  | none, some url, _ => address url
  | none, none, some path => file path
  | none, none, none => absent

/-- The text of the complete body that an address answers with a status of 200 to 299. -/
def fetch (s : System m) (text : String) : ExceptT Failure m String := do
  let some url := Url.parse? text
    | throw (.network "builder error")
  let (url, named) := url.withoutUser
  if !url.isSendable then
    throw (.network ("builder error for url (" ++ url.text ++ ")"))
  let reply ← s.send {
    method := "GET", url, body := .zeros 0
    headers := [("user-agent", userAgent), ("accept", "*/*")] ++ named }
  match reply with
  | .unreachable => throw (.network ("error sending request for url (" ++ url.text ++ ")"))
  | .answered code body complete =>
    if code < 200 ∨ 300 ≤ code then
      throw (.status (toString code ++ " " ++ HttpStatus.phrase code))
    else if complete then return body.text
    else throw (.network ("error decoding response body for url (" ++ url.text ++ ")"))

/-- The text behind a source, if there is a source. -/
def readText (s : System m) : Source → ExceptT Failure m (Option String)
  | absent => return none
  | environment name => do
    match ← s.lookup? name with
    | some text => return some text
    | none => throw (.environment name)
  | address url => some <$> fetch s url
  | file path => some <$> Files.readText s path "exception file"

/-- The waivers behind a source. -/
def load (s : System m) (source : Source) : ExceptT Failure m WaiverList := do
  let wrap (failure : Failure) : Failure := .source source.text failure.message
  match ← tryCatch (readText s source) (fun failure => throw (wrap failure)) with
  | none => return []
  | some text =>
    match WaiverList.parse text with
    | .ok ws => return ws
    | .error failure => throw (wrap failure)

end Source

end ScanGate
