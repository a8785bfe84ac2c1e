import ScanGate.Proofs.Json.RoundTrip
import ScanGate.Proofs.Run.Ending
import ScanGate.Proofs.Text.Decode

/-! What decides the exit code of a run for a report. The format, the colours and the
destination have no part in it: runs that are alike in everything else have the same
response. -/
namespace ScanGate

open CommandLine (ReportOptions)

/-! ### The same files and the same network -/

/-- What can be read as text at a path is the same in both trees. -/
def Tree.SameText (t t' : Tree) (path : String) : Prop :=
  ∀ text, t.HasText path text ↔ t'.HasText path text

theorem Tree.SameText.symm {t t' : Tree} {path : String} (h : t.SameText t' path) :
    t'.SameText t path :=
  fun text => (h text).symm

theorem Tree.SameText.product_of {t t' : Tree} {product : CommandLine.Product} {id : ProductId}
    (h : t.SameText t' IdFile.path) (hid : id.Of t product) : id.Of t' product := by
  unfold ProductId.Of at hid ⊢
  split at hid
  · exact hid
  · obtain ⟨text, htext, hparse⟩ := hid
    exact ⟨text, (h text).mp htext, hparse⟩

namespace Surroundings

variable {e e' e₁ : Surroundings}

/-- The network is the same, with the same answers to come. -/
structure SameNetwork (e e' : Surroundings) : Prop where
  connected : e'.connected = e.connected
  trusted : e'.trusted = e.trusted
  replies : e'.replies = e.replies

namespace SameNetwork

theorem symm (h : e.SameNetwork e') : e'.SameNetwork e :=
  ⟨h.connected.symm, h.trusted.symm, h.replies.symm⟩

theorem exists_answers {request : Request} {body : Body} (h : e.SameNetwork e')
    (ha : e.Answers request body e₁) :
    ∃ e₁', e'.Answers request body e₁' ∧ e₁.SameNetwork e₁' := by
  obtain ⟨hopens, hreply, hlow, hhigh⟩ := ha
  refine ⟨_, .mk ?_ (h.replies.trans hreply) hlow hhigh, h.connected, h.trusted, rfl⟩
  rw [← hopens, opens, h.connected, h.trusted, opens]

theorem exists_fetches {client : Client} {product : ProductId} {r : Report}
    (h : e.SameNetwork e') (hr : client.Fetches product e r e₁) :
    ∃ e₁', client.Fetches product e' r e₁' := by
  obtain ⟨body, ⟨hurl, hheader, hsendable, hanswer⟩, hparse⟩ := hr
  obtain ⟨e₁', hanswer', -⟩ := h.exists_answers hanswer
  exact ⟨e₁', body, .mk hurl hheader hsendable hanswer', hparse⟩

theorem exists_provides {source : Source} {ws : WaiverList} (h : e.SameNetwork e')
    (henvironment : ∀ name, source = .environment name → e.lookup? name = e'.lookup? name)
    (hfile : ∀ path, source = .file path → e.tree.SameText e'.tree path)
    (hp : source.Provides e ws e₁) : ∃ e₁', source.Provides e' ws e₁' ∧ e₁.SameNetwork e₁' := by
  cases hp with
  | absent => exact ⟨e', .absent, h⟩
  | environment htext hparse =>
    rw [henvironment _ rfl] at htext
    exact ⟨e', .environment htext hparse, h⟩
  | address hurl hsendable hanswer hparse =>
    obtain ⟨e₁', hanswer', hnetwork⟩ := h.exists_answers hanswer
    exact ⟨e₁', .address hurl hsendable hanswer' hparse, hnetwork⟩
  | file htext hparse => exact ⟨e', .file ((hfile _ rfl _).mp htext) hparse, h⟩

end SameNetwork

end Surroundings

/-! ### What decides -/

/-- The options without those that say where the settings are, how the report looks and where
it goes. -/
def CommandLine.ReportOptions.decisive (o : ReportOptions) : ReportOptions :=
  { o with connection := { o.connection with config := none }, format := none, output := none }

/-- The settings without the format. -/
def Settings.decisive (s : Settings) : Settings := { s with format := none }

namespace Run

variable {o o' : ReportOptions} {e e' e₁ : Surroundings} {s s' : Settings} {response : Response}

theorem client_decisive {client : Client} :
    Client.Of o.decisive.connection s.decisive client ↔ Client.Of o.connection s client := by
  constructor
  · rintro ⟨hhost, hcredentials⟩
    exact .mk (s := s) hhost hcredentials
  · rintro ⟨hhost, hcredentials⟩
    exact .mk (s := s.decisive) hhost hcredentials

theorem request_decisive (product : ProductId) :
    request o.decisive s.decisive product = request o s product := rfl

/-! ### Alike runs -/

/-- Two runs differ in the format, the colours and the destination only. The options agree but
for these, and the settings but for the format; the saved id, the waivers and the answers of
the network are the same. Of the variables only that of the waivers counts. -/
structure Alike (o o' : ReportOptions) (e e' : Surroundings) : Prop where
  options : o.decisive = o'.decisive
  settings : ∀ p, (∃ s : Settings, s.Of e.tree o.connection.config ∧ s.decisive = p) ↔
    ∃ s : Settings, s.Of e'.tree o'.connection.config ∧ s.decisive = p
  saved : e.tree.SameText e'.tree IdFile.path
  environment : ∀ name, o.exceptVariable = some name → e.lookup? name = e'.lookup? name
  file : ∀ s : Settings, s.Of e.tree o.connection.config →
    ∀ path, (o.exceptFile <|> s.waivers) = some path → e.tree.SameText e'.tree path
  network : e.SameNetwork e'

theorem Alike.symm (h : Alike o o' e e') : Alike o' o e' e where
  options := h.options.symm
  settings p := (h.settings p).symm
  saved := h.saved.symm
  environment name hname :=
    (h.environment name ((congrArg (·.exceptVariable) h.options).trans hname)).symm
  file s' hs' path hpath := by
    obtain ⟨s, hs, heq⟩ := (h.settings _).mpr ⟨s', hs', rfl⟩
    have hfile : o.exceptFile = o'.exceptFile := congrArg (·.exceptFile) h.options
    have hwaivers : s.waivers = s'.waivers := congrArg (·.waivers) heq
    refine (h.file s hs path ?_).symm
    rw [hfile, hwaivers, hpath]
  network := h.network.symm

/-- Another format, other colours and another destination make an alike run, unless the waivers
are in the variable that turns colours off. -/
theorem alike_of_presentation (format : Option Format) (output : Option String)
    (htree : e'.tree = e.tree) (hnetwork : e.SameNetwork e')
    (hvariables : ∀ name, name ≠ "NO_COLOR" → e.lookup? name = e'.lookup? name)
    (hwaivers : o.exceptVariable ≠ some "NO_COLOR") :
    Alike o { o with format, output } e e' where
  options := rfl
  settings p := by rw [htree]
  saved text := by rw [htree]
  environment name hname := by
    refine hvariables name ?_
    rintro rfl
    exact hwaivers hname
  file _ _ path _ text := by rw [htree]
  network := hnetwork

theorem Alike.exists_responds (h : Alike o o' e e') (hr : Responds o e s response e₁) :
    ∃ s' e₁', Responds o' e' s' response e₁' := by
  cases hr with
  | @mk client product ws r e₂ _ hsettings hclient hproduct hwaivers hreport =>
    obtain ⟨s', hsettings', hs⟩ := (h.settings _).mp ⟨s, hsettings, rfl⟩
    rw [← client_decisive, h.options, ← hs, client_decisive] at hclient
    have hrequest : request o s product = request o' s' product := by
      rw [← request_decisive, h.options, ← hs, request_decisive]
    have hproducts : o.product = o'.product := congrArg (·.product) h.options
    have hsame : ∃ e₂', (request o s product).source.Provides e' ws e₂' ∧ e₂.SameNetwork e₂' :=
      h.network.exists_provides
        (fun name hname => h.environment name (eq_of_choose_eq_environment hname))
        (fun path hpath => h.file s hsettings path (eq_of_choose_eq_file hpath)) hwaivers
    obtain ⟨e₂', hwaivers', hnetwork⟩ := hsame
    obtain ⟨e₁', hreport'⟩ := hnetwork.exists_fetches hreport
    rw [hrequest] at hwaivers' ⊢
    exact ⟨s', e₁', .mk hsettings' hclient (h.saved.product_of (hproducts ▸ hproduct)) hwaivers'
      hreport'⟩

/-! ### The exit code -/

theorem outcome_exitCode_iff (outcome : Outcome) :
    (outcome.exitCode.toNat = 0 ↔ outcome = .success) ∧
    (outcome.exitCode.toNat = 1 ↔ outcome = .findingsPresent) ∧
    (outcome.exitCode.toNat = 3 ↔
      outcome = .retryLater ∨ ∃ obstacle, outcome = .fatal obstacle) := by
  cases outcome <;> simp [Outcome.exitCode, ExitCode.toNat]

/-- A run for a report fails closed, and how the report is presented has no part in its exit
code. If some step fails, the exit code is 3 and nothing goes to the output stream. Otherwise
the exit code is that of the outcome, the rendering shows it, and the destination has the
rendering and nothing else. Alike runs with destinations that can be written have the same
exit code. -/
theorem exitCode_report {w w' : World} {code : ExitCode}
    (hrun : (run World.system (.report o)).run w = (code, w')) :
    ((¬ ∃ s response, Completes o w.surroundings s response) →
      code.toNat = 3 ∧ w'.output = w.output) ∧
    (∀ s response, Completes o w.surroundings s response →
      code = response.outcome.exitCode ∧
      (code.toNat = 0 ↔ response.outcome = .success) ∧
      (code.toNat = 1 ↔ response.outcome = .findingsPresent) ∧
      (code.toNat = 3 ↔
        response.outcome = .retryLater ∨ ∃ obstacle, response.outcome = .fatal obstacle) ∧
      (View.ofResponse response).exitCode = code.toNat ∧
      View.Shows code.toNat (format o s) (rendering o (colored w.surroundings) s response) ∧
      Holds o w w' (rendering o (colored w.surroundings) s response)) ∧
    (∀ o₂ w₂ w₂' code₂, (run World.system (.report o₂)).run w₂ = (code₂, w₂') →
      Alike o o₂ w.surroundings w₂.surroundings →
      (∀ path, o.output = some path → w.tree.Writable path) →
      (∀ path, o₂.output = some path → w₂.tree.Writable path) → code₂ = code) := by
  refine ⟨fun h => ?_, fun s response h => ?_, fun o₂ w₂ w₂' code₂ hrun₂ halike hp hp₂ => ?_⟩
  · obtain ⟨rfl, hquiet⟩ := exitCode_of_fails hrun h
    exact ⟨rfl, hquiet⟩
  · obtain ⟨rfl, hholds⟩ := exitCode_of_completes hrun h
    obtain ⟨h0, h1, h3⟩ := outcome_exitCode_iff response.outcome
    exact ⟨rfl, h0, h1, h3, rfl, View.shows_render _ _ _ rfl, hholds⟩
  · by_cases h : ∃ s response, Completes o w.surroundings s response
    · obtain ⟨s, response, hc⟩ := h
      obtain ⟨e₁, hresponds⟩ := hc.responds
      obtain ⟨s₂, e₂, hresponds₂⟩ := halike.exists_responds hresponds
      rw [(exitCode_of_completes hrun hc).1,
        (exitCode_of_completes hrun₂ ⟨⟨e₂, hresponds₂⟩, hp₂⟩).1]
    · rw [(exitCode_of_fails hrun h).1]
      refine (exitCode_of_fails hrun₂ fun ⟨s₂, response, hc₂⟩ => h ?_).1
      obtain ⟨e₂, hresponds₂⟩ := hc₂.responds
      obtain ⟨s, e₁, hresponds⟩ := halike.symm.exists_responds hresponds₂
      exact ⟨s, response, ⟨e₁, hresponds⟩, hp⟩

/-- A report that is ready and passes. -/
def sampleDocument : Json :=
  .record [("results", .record [("status", .text "R"),
    ("summary", .record [("verdict", .record [("short", .text "Pass")])])])]

/-- The report as a service sends it that puts a byte order mark in front. -/
def sampleBody : Body where
  bytes := ("\uFEFF" ++ sampleDocument.compact).toUTF8

theorem parse_sampleBody : Report.parse sampleBody.text = .ok ⟨.ready, .pass, "", []⟩ := by
  have htext : sampleBody.text = sampleDocument.compact := by
    rw [← String.toList_inj, sampleBody, Text.toList_decode_toUTF8, String.toList_append]
    exact if_pos rfl
  have hread : Json.read? sampleDocument.compact = some sampleDocument := by
    apply Json.read?_compact
    simp only [sampleDocument, Json.record, Json.text, Json.IsWellFormed, Json.wellFormedMembers,
      List.map_cons, List.map_nil, true_and]
  have hreport : Report.ofJson? sampleDocument = some ⟨.ready, .pass, "", []⟩ := rfl
  rw [htext, Report.parse, hread, Option.bind_some, hreport]

def sampleOptions : ReportOptions where
  connection := { token := some "t", host := some "h" }
  product := { id := some ⟨"1"⟩ }

def sampleWorld : World where
  replies := [.answered 200 sampleBody true]

/-- The same request again, in other clothes. -/
def otherOptions : ReportOptions :=
  { sampleOptions with format := some .json, output := some "report.json" }

def otherWorld : World := { sampleWorld with environment := [("NO_COLOR", "1")] }

def sampleClient : Client := .ofHost "h" (.bearer "t") false

def sampleResponse : Response :=
  Gate.respond (request sampleOptions {} ⟨"1"⟩) (sampleClient.productUrl ⟨"1"⟩)
    ⟨.ready, .pass, "", []⟩ []

theorem fetches_sample : sampleClient.Fetches ⟨"1"⟩ sampleWorld.surroundings
    ⟨.ready, .pass, "", []⟩ { sampleWorld.surroundings with replies := [] } := by
  have hurl : (Url.parse? (sampleClient.reportUrl ⟨"1"⟩)).any (·.withoutUser.1.isSendable) := by
    decide +kernel
  obtain ⟨url, hparse, hsendable⟩ := (Option.any_eq_true _ _).mp hurl
  exact ⟨_, .mk hparse (by decide +kernel) hsendable (.mk rfl rfl (by decide) (by decide)),
    parse_sampleBody⟩

theorem completes_sample :
    Completes sampleOptions sampleWorld.surroundings {} sampleResponse where
  responds := by
    have hsettings : Settings.Of sampleWorld.tree none {} := by
      rw [Settings.Of, if_neg (by decide +kernel)]
    exact ⟨_, .mk hsettings (.mk rfl rfl) rfl .absent fetches_sample⟩
  writable path h := nomatch h

theorem writable_sample : sampleWorld.tree.Writable "report.json" := by
  have hparent : Path.parent? "report.json" = some "" := by decide +kernel
  have hlocate : sampleWorld.tree.locate .creation "report.json" =
    .ok (.vacant ["report.json"]) := rfl
  have hinspect : sampleWorld.tree.inspect "report.json" = .error .notFound := rfl
  constructor
  · intro parent h
    exact .inl (Option.some.inj (h.symm.trans hparent))
  · rw [hinspect]
    exact fun _ h => nomatch h
  · intro data
    rw [Tree.write, hlocate]
    exact ⟨_, rfl⟩

theorem alike_sample :
    Alike sampleOptions otherOptions sampleWorld.surroundings otherWorld.surroundings := by
  refine alike_of_presentation _ _ rfl ⟨rfl, rfl, rfl⟩ (fun name hname => ?_) (by decide)
  have hother : ("NO_COLOR" == name) = false := by simpa using hname.symm
  change none = (List.find? (·.1 == name) [("NO_COLOR", "1")]).map _
  rw [List.find?_cons, hother]
  rfl

theorem exitCode_report_sample :
    ((run World.system (.report sampleOptions)).run sampleWorld).1.toNat = 0 ∧
      ((run World.system (.report otherOptions)).run otherWorld).1.toNat = 0 := by
  obtain ⟨-, hcompletes, halike⟩ := exitCode_report (o := sampleOptions) (w := sampleWorld) rfl
  have hpasses : ((run World.system (.report sampleOptions)).run sampleWorld).1.toNat = 0 :=
    (hcompletes _ _ completes_sample).2.1.mpr (by decide)
  have hsame := halike otherOptions otherWorld _ _ rfl alike_sample (fun _ h => nomatch h)
    fun path h => Option.some.inj h ▸ writable_sample
  exact ⟨hpasses, hsame ▸ hpasses⟩

end Run

end ScanGate
