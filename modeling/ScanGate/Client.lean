import ScanGate.Base64
import ScanGate.Files
import ScanGate.Service
import ScanGate.Text.Quoted

/-! The scan service over HTTP. Every call is one exchange, without retries; the
credentials travel in the authorization header and nowhere else. -/
namespace ScanGate

inductive Credentials where
  | basic (username password : String)
  | bearer (token : String)
  deriving DecidableEq

namespace Credentials

/-- The credentials for a log: no secret is shown. -/
def text : Credentials → String
  | basic username _ => "Basic \x7b username: " ++ Text.quoted username ++
      ", password: \"***\" \x7d"
  | bearer _ => "Bearer(\"***\")"

def basicHeader (username password : String) : String :=
  "Basic " ++ String.ofList (Base64.encode (Text.encodeUtf8 (username ++ ":" ++ password)))

/-- The authorization header. -/
def header : Credentials → String
  | basic username password => basicHeader username password
  | bearer token => "Bearer " ++ token

end Credentials

/-- Name and version, as sent with every request. -/
def userAgent : String := "bdba-gate/0.3.0"

/-- The text behind escapes, if it is one. -/
def unescape? (s : String) : Option String :=
  Text.ofUtf8? ⟨(Percent.decodeBytes s.toList).toArray⟩

/-- The address of a request, without the user it names; who is named goes into the
headers. A name that is no text stays where it is. -/
def Url.withoutUser (u : Url) : Url × List (String × String) :=
  match u.user with
  | none => (u, [])
  | some (name, password) =>
    match unescape? name, unescape? password with
    | none, _ => (u, [])
    | some "", none => (u, [])
    | some name, password =>
      ({ u with user := none },
        [("authorization", Credentials.basicHeader name (password.getD ""))])

structure Client where
  base : String
  credentials : Credentials
  /-- Whether any certificate will do. -/
  insecure : Bool := false
  deriving DecidableEq

namespace Client

variable {m : Type → Type} [Monad m]

def ofHost (host : String) (credentials : Credentials) (insecure : Bool) : Client :=
  ⟨"https://" ++ Text.trim host, credentials, insecure⟩

def uploadUrl (c : Client) (fileName : String) : String :=
  c.base ++ "/api/upload/" ++ Percent.segment fileName

def fetchUrl (c : Client) : String := c.base ++ "/api/fetch/"

def reportUrl (c : Client) (id : ProductId) : String := c.base ++ "/api/product/" ++ id.text ++ "/"

def pdfUrl (c : Client) (id : ProductId) : String :=
  c.base ++ "/api/product/" ++ id.text ++ "/pdf-report"

/-- The page of a product for human readers. -/
def productUrl (c : Client) (id : ProductId) : String := c.base ++ "/products/" ++ id.text ++ "/"

/-- The complete body of an answer with a status of 200 to 299. -/
def exchange (c : Client) (s : System m) (operation method address : String)
    (headers : List (String × String)) (body : Content) : ExceptT Failure m Body := do
  let some url := Url.parse? address
    | throw (.exchange operation "builder error")
  if !isHeaderValue c.credentials.header then
    throw (.exchange operation "builder error")
  let (url, named) := url.withoutUser
  if !url.isSendable then
    throw (.exchange operation ("builder error for url (" ++ url.text ++ ")"))
  let reply ← s.send {
    method, url, body, verified := !c.insecure
    headers := [("user-agent", userAgent)] ++ named ++ headers ++
      [("authorization", c.credentials.header)] }
  match reply with
  | .unreachable =>
    throw (.exchange operation ("error sending request for url (" ++ url.text ++ ")"))
  | .answered code body complete =>
    if code < 200 ∨ 300 ≤ code then throw (.refused operation code)
    else if complete then return body
    else throw (.exchange operation ("error decoding response body for url (" ++ url.text ++ ")"))

/-- The file to be uploaded: its name and what is in it. -/
def openUpload (s : System m) (path : String) : ExceptT Failure m (String × Content) := do
  let size ← Files.checkRegular s path "scan file"
  Files.checkSize size path Files.maxUpload
  let some name := Path.fileName? path
    | throw (.noFileName path)
  match ← s.read path with
  | .ok content => return (name, content)
  | .error e => throw (.unreadable path e.text)

/-- Headers that every submission has. -/
def submitHeaders (group : String) : Except Failure (List (String × String)) :=
  if isHeaderValue group then .ok [("force-scan", "true"), ("group", group)]
  else .error (.headerValue "group" group)

def submit (c : Client) (s : System m) (target : Target) (group : String) :
    ExceptT Failure m ProductId := do
  let headers ← submitHeaders group
  let body ← match target with
    | .file path => do
      let (name, content) ← openUpload s path
      c.exchange s "upload the scan file" "PUT" (c.uploadUrl name)
        (("accept", "*/*") :: headers ++
          [("delete-binary", "true"), ("content-length", toString content.size)]) content
    | .url address => do
      if !isHeaderValue address then throw (.headerValue "url" address)
      c.exchange s "submit the scan url" "POST" c.fetchUrl
        (("accept", "*/*") :: headers ++ [("url", address)]) (.zeros 0)
  ProductId.parse body.text

def report (c : Client) (s : System m) (id : ProductId) : ExceptT Failure m Report := do
  let body ← c.exchange s "fetch the scan report" "GET" (c.reportUrl id)
    [("accept", "application/json")] (.zeros 0)
  Report.parse body.text

def pdf (c : Client) (s : System m) (id : ProductId) : ExceptT Failure m ByteArray :=
  Body.bytes <$>
    c.exchange s "fetch the PDF report" "GET" (c.pdfUrl id) [("accept", "*/*")] (.zeros 0)

/-- The client as a service. -/
def service (c : Client) (s : System m) : Service m where
  submit := c.submit s
  report := c.report s
  pdf := c.pdf s
  link := c.productUrl

end Client

end ScanGate
