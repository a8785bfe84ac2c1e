import ScanGate.Proofs.Client.Address
import ScanGate.Proofs.Run.Mirror
import ScanGate.Proofs.Run.Steps

/-! Runs in step that send. The clients of the two runs may differ in their credentials. If the
requests of the one and of the other come to the same, then everything a command does with the
service and for the waivers does. -/
namespace ScanGate

/-- The client with other credentials. -/
def Client.withCredentials (c : Client) (credentials : Credentials) : Client :=
  { c with credentials }

namespace Run

variable {σ τ α : Type} {I : σ → τ → Prop} {S : System (StateM σ)} {T : System (StateM τ)}
  {c : Client} {k : Credentials} {source : Source} {colored : Bool}

/-! ### Sending -/

theorem inStep_answered {code : Nat} {complete : Bool} {refused incomplete : Failure} {a : α} :
    InStep I (if code < 200 ∨ 300 ≤ code then throw refused
      else if complete then pure a else throw incomplete)
      (if code < 200 ∨ 300 ≤ code then throw refused
      else if complete then pure a else throw incomplete) := by
  by_cases hcode : code < 200 ∨ 300 ≤ code
  · simp only [if_pos hcode]
    exact inStep_throw refused
  · simp only [if_neg hcode]
    cases complete with
    | true => exact inStep_pure a
    | false => exact inStep_throw incomplete

theorem inStep_exchange {method address : String} {headers : List (String × String)}
    {body : Content} (operation : String)
    (hheader : isHeaderValue k.header = isHeaderValue c.credentials.header)
    (hsend : ∀ url, Url.parse? address = some url →
      InStep I (liftM (S.send (c.request method url headers body)))
        (liftM (T.send ((c.withCredentials k).request method url headers body)))) :
    InStep I (c.exchange S operation method address headers body)
      ((c.withCredentials k).exchange T operation method address headers body) := by
  unfold Client.exchange
  cases hurl : Url.parse? address with
  | none => exact inStep_throw _
  | some url =>
    have hother : isHeaderValue (c.withCredentials k).credentials.header =
      isHeaderValue c.credentials.header := hheader
    simp only [hother]
    refine InStep.provided (InStep.provided ((hsend url hurl).bind fun reply => ?_))
    cases reply with
    | unreachable => exact inStep_throw _
    | answered code body complete => exact inStep_answered

theorem inStep_fetch {address : String}
    (hsend : ∀ url, Url.parse? address = some url → InStep I
      (liftM (S.send (Source.request url))) (liftM (T.send (Source.request url)))) :
    InStep I (Source.fetch S address) (Source.fetch T address) := by
  unfold Source.fetch
  cases hurl : Url.parse? address with
  | none => exact inStep_throw _
  | some url =>
    refine InStep.provided ((hsend url hurl).bind fun reply => ?_)
    cases reply with
    | unreachable => exact inStep_throw _
    | answered code body complete => exact inStep_answered

/-! ### The service -/

/-- What is sent to the service comes to the same with the client's credentials and with others. -/
structure SendsInStep (I : σ → τ → Prop) (S : System (StateM σ)) (T : System (StateM τ))
    (c : Client) (k : Credentials) : Prop where
  header : isHeaderValue k.header = isHeaderValue c.credentials.header
  send {e : Endpoint} {url : Url} (hurl : Url.parse? (c.address e) = some url) (method : String)
    (headers : List (String × String)) (body : Content) :
    InStep I (liftM (S.send (c.request method url headers body)))
      (liftM (T.send ((c.withCredentials k).request method url headers body)))

section

variable (h : SendsInStep I S T c k)

include h

theorem SendsInStep.exchange (e : Endpoint) (operation method : String)
    (headers : List (String × String)) (body : Content) :
    InStep I (c.exchange S operation method (c.address e) headers body)
      ((c.withCredentials k).exchange T operation method (c.address e) headers body) :=
  inStep_exchange operation h.header fun _ hurl => h.send hurl method headers body

theorem inStep_report (id : ProductId) :
    InStep I (c.report S id) ((c.withCredentials k).report T id) :=
  (h.exchange (.report id) _ _ _ _).bind fun _ => inStep_except _

theorem inStep_pdf (id : ProductId) : InStep I (c.pdf S id) ((c.withCredentials k).pdf T id) :=
  (h.exchange (.pdf id) _ _ _ _).map Body.bytes

end

theorem inStep_openUpload (h : Reflects I S T) (path : String) :
    InStep I (Client.openUpload S path) (Client.openUpload T path) := by
  refine (inStep_checkRegular h).bind fun size => (inStep_except _).bind fun _ => ?_
  cases Path.fileName? path with
  | none => exact inStep_throw _
  | some name =>
    refine (h.read path).bind fun r => ?_
    cases r with
    | ok content => exact inStep_pure (name, content)
    | error _ => exact inStep_throw _

theorem inStep_submit (h : Reflects I S T) (hservice : SendsInStep I S T c k) (target : Target)
    (group : String) :
    InStep I (c.submit S target group) ((c.withCredentials k).submit T target group) := by
  refine (inStep_except _).bind fun headers => ?_
  cases target with
  | file path =>
    exact (inStep_openUpload h path).bind fun r =>
      (hservice.exchange (.upload r.1) _ _ _ _).bind fun _ => inStep_except _
  | url address =>
    exact InStep.provided ((hservice.exchange .fetch _ _ _ _).bind fun _ => inStep_except _)

/-! ### The waivers -/

/-- What is sent for the waivers comes to the same. -/
def FetchesInStep (I : σ → τ → Prop) (S : System (StateM σ)) (T : System (StateM τ))
    (source : Source) : Prop :=
  ∀ ⦃address url⦄, source = .address address → Url.parse? address = some url →
    InStep I (liftM (S.send (Source.request url))) (liftM (T.send (Source.request url)))

theorem inStep_loadSource (h : Reflects I S T) (hwaivers : FetchesInStep I S T source) :
    InStep I (Source.load S source) (Source.load T source) := by
  have hread : InStep I (Source.readText S source) (Source.readText T source) := by
    cases source with
    | absent => exact inStep_pure none
    | environment name =>
      refine (h.lookup name).bind fun value => ?_
      cases value with
      | some text => exact inStep_pure (some text)
      | none => exact inStep_throw _
    | address address => exact (inStep_fetch fun url hurl => hwaivers rfl hurl).map some
    | file path => exact (inStep_readText h).map some
  refine (hread.reword _).bind fun found => ?_
  cases found with
  | none => exact inStep_pure []
  | some text =>
    simp only
    cases WaiverList.parse text with
    | ok ws => exact inStep_pure ws
    | error _ => exact inStep_throw _

theorem inStep_loadWaivers (h : Reflects I S T) (hwaivers : FetchesInStep I S T source) :
    InStep I (Gate.loadWaivers (Source.load S) (tell S colored) source)
      (Gate.loadWaivers (Source.load T) (tell T colored) source) := by
  by_cases ha : source = .absent
  · subst ha
    rw [Gate.loadWaivers_absent, Gate.loadWaivers_absent]
    exact inStep_pure []
  · rw [Gate.loadWaivers_eq _ _ ha, Gate.loadWaivers_eq _ _ ha]
    exact (h.tell _).bind fun _ => (inStep_loadSource h hwaivers).bind fun ws =>
      (inStep_tellAll h _).bind fun _ => inStep_pure ws

/-! ### Commands -/

theorem inStep_gate (h : Reflects I S T) (hservice : SendsInStep I S T c k) (request : Gate.Request)
    (hwaivers : FetchesInStep I S T request.source) :
    InStep I (Gate.run (c.service S) (Source.load S) (tell S colored) request)
      (Gate.run ((c.withCredentials k).service T) (Source.load T) (tell T colored) request) := by
  rw [Gate.run_eq, Gate.run_eq]
  exact (inStep_loadWaivers h hwaivers).bind fun ws => (h.tell _).bind fun _ =>
    (inStep_report hservice request.product).bind fun r =>
      (inStep_tellAll h _).bind fun _ => inStep_pure _

theorem inStep_submission (h : Mirrors I S T) (hservice : SendsInStep I S T c k)
    (request : Submission.Request) :
    InStep I
      (Submission.run (c.service S) (IdFile.save S IdFile.path) (tell S colored) request)
      (Submission.run ((c.withCredentials k).service T) (IdFile.save T IdFile.path)
        (tell T colored) request) := by
  unfold Submission.run
  by_cases hgroup : (Text.trimChars request.group.toList).isEmpty = true
  · simp only [if_pos hgroup]
    exact inStep_throw _
  · simp only [if_neg hgroup]
    refine (h.tell _).bind fun _ =>
      (inStep_submit h.toReflects hservice request.target _).bind fun id =>
        (h.tell _).bind fun _ => ?_
    cases request.keep with
    | true =>
      exact (inStep_save h id).bind fun _ => (h.tell _).bind fun _ => (h.tell _).bind fun _ =>
        inStep_pure id
    | false => exact (h.tell _).bind fun _ => inStep_pure id

theorem inStep_download (h : Reflects I S T) (hservice : SendsInStep I S T c k) (id : ProductId) :
    InStep I (Download.run (c.service S) (tell S colored) id)
      (Download.run ((c.withCredentials k).service T) (tell T colored) id) := by
  have hpdf : InStep I ((c.service S).pdf id) (((c.withCredentials k).service T).pdf id) := by
    rw [Client.service, Client.service]
    exact inStep_pdf hservice id
  unfold Download.run
  refine (h.tell _).bind fun _ => hpdf.bind fun content => ?_
  by_cases hempty : content.size = 0
  · simp only [if_pos hempty]
    exact inStep_throw _
  · simp only [if_neg hempty]
    exact (h.tell _).bind fun _ => inStep_pure content

end Run

end ScanGate
