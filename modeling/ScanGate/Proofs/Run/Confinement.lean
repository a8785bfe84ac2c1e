import ScanGate.Proofs.Run.Agreement
import ScanGate.Proofs.Run.Ending
import ScanGate.Proofs.Run.Sending
import ScanGate.Proofs.Run.Submission

/-! Where credentials go. Two clients that differ in nothing but their credentials send twins:
requests to the service that differ in the authorization header alone, and the same request for
waivers. Everything a command does with the one and with the other comes to the same end. -/
namespace ScanGate.Run

variable {colored : Bool}

/-- A request of a run and its twin in a run with other credentials. One to the service, at the
address of an endpoint, is the request of the client with these credentials; one for the
waivers, at the address that is given for them, is the same. -/
inductive Twin (client : Client) (credentials : Credentials) (waivers : Option String) :
    Request → Request → Prop
  | service {e : Endpoint} {url : Url} (hurl : Url.parse? (client.address e) = some url)
      (method : String) (headers : List (String × String)) (body : Content) :
      Twin client credentials waivers (client.request method url headers body)
        ((client.withCredentials credentials).request method url headers body)
  | waivers {address : String} {url : Url} (haddress : waivers = some address)
      (hurl : Url.parse? address = some url) :
      Twin client credentials waivers (Source.request url) (Source.request url)

section

variable {client : Client} {credentials : Credentials} {waivers : Option String}
  (hclient : isHeaderValue client.credentials.header = true)
  (hcredentials : isHeaderValue credentials.header = true)

include hclient hcredentials

/-- Twins get the same answer. -/
theorem sendsInStep_world (old : List Request) :
    SendsInStep (Twins (Twin client credentials waivers) old) World.system World.system client
      credentials where
  header := hcredentials.trans hclient.symm
  send hurl method headers body :=
    agree_send (R := Twin client credentials waivers) (.service hurl method headers body) rfl rfl
      old

omit hclient hcredentials in
/-- The request for waivers is its own twin. -/
theorem fetchesInStep_world {source : Source} (old : List Request)
    (haddress : ∀ address, source = .address address → waivers = some address) :
    FetchesInStep (Twins (Twin client credentials waivers) old) World.system World.system source :=
  fun address _ hsource hurl => agree_send (R := Twin client credentials waivers)
    (.waivers (haddress address hsource) hurl) rfl rfl old

theorem agree_gate (request : Gate.Request)
    (haddress : ∀ address, request.source = .address address → waivers = some address) :
    Agree (Twin client credentials waivers)
      (Gate.run (client.service World.system) (Source.load World.system)
        (tell World.system colored) request)
      (Gate.run ((client.withCredentials credentials).service World.system)
        (Source.load World.system) (tell World.system colored) request) := fun old =>
  inStep_gate (mirrors_world old).toReflects (sendsInStep_world hclient hcredentials old) request
    (fetchesInStep_world old haddress)

theorem agree_submission (request : Submission.Request) :
    Agree (Twin client credentials waivers)
      (Submission.run (client.service World.system) (IdFile.save World.system IdFile.path)
        (tell World.system colored) request)
      (Submission.run ((client.withCredentials credentials).service World.system)
        (IdFile.save World.system IdFile.path) (tell World.system colored) request) := fun old =>
  inStep_submission (mirrors_world old) (sendsInStep_world hclient hcredentials old) request

theorem agree_download (id : ProductId) :
    Agree (Twin client credentials waivers)
      (Download.run (client.service World.system) (tell World.system colored) id)
      (Download.run ((client.withCredentials credentials).service World.system)
        (tell World.system colored) id) := fun old =>
  inStep_download (mirrors_world old).toReflects (sendsInStep_world hclient hcredentials old) id

end

end ScanGate.Run
