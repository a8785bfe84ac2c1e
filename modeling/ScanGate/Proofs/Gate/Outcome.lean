import ScanGate.Proofs.Decision
import ScanGate.Proofs.Evaluation.Groups
import ScanGate.Proofs.Gate.Response
import ScanGate.Proofs.Json.RoundTrip
import ScanGate.Proofs.Report.Reading

/-! From the document to the outcome. Which outcome a run returns can be read off the
report's document and the loaded waivers alone: the status says whether there is a
decision, and the decision is a success when nothing in the document speaks against
it. -/
namespace ScanGate

/-! ### What speaks against an artifact -/

namespace Wire

/-- The waiver has the four fields of the component and its entry. -/
def Names (w : Waiver) (c e : Json) : Prop :=
  w.library = some (library c) ∧ w.version = version c ∧ w.cve = some (cve e) ∧
    w.fingerprint = some (Place.fingerprint (places c))

/-- Nothing in the document speaks against the artifact: the service's verdict is a pass
or does not matter, no component with vulnerabilities lacks a version, and every entry
that counts has a waiver on the list. -/
structure Clears (doc : Json) (t : Threshold) (p : Policy) (ws : WaiverList) : Prop where
  verdict : (verdict doc).get "short" = .text "Pass" ∨ p = .advisory
  versioned : ∀ c ∈ components doc, ¬ (version c = none ∧ total c ≠ 0)
  waived : ∀ c ∈ components doc, total c ≠ 0 → total c ≠ historical c →
    ∀ e ∈ entries c, IsExact e → ¬ IsTriaged e → t.IsMetBy (score e) →
      ∃ w ∈ ws, Names w c e

variable {doc : Json} {t : Threshold} {p : Policy} {ws : WaiverList}

theorem textAt_eq_iff {key s : String} {value : Json} (hs : s ≠ "") :
    textAt key value = s ↔ value.get key = .text s := by
  rw [textAt, ← Json.text?_eq_some]
  cases (value.get key).text? with
  | none => simp [hs.symm]
  | some s' => simp

theorem names_iff {w : Waiver} {c e : Json} : Names w c e ↔
    w = ((component c).finding (component c).fingerprint (vulnerability e)).waiver := by
  rw [← Waiver.names_iff]
  rfl

theorem counts_iff {e : Json} : (vulnerability e).Counts t ↔
    IsExact e ∧ ¬ IsTriaged e ∧ t.IsMetBy (score e) := by
  have ht : (vulnerability e).triaged = false ↔ ¬ IsTriaged e := by
    simp [vulnerability, IsTriaged]
  rw [Vulnerability.Counts, ht, ← exact_iff]
  rfl

/-- The counts of a component that is decoded tell what is written. -/
theorem counts_iff_of_fits {c : Json} (hc : Fits c) :
    ((component c).total = 0 ↔ total c = 0) ∧
      ((component c).total = (component c).historical ↔ total c = historical c) := by
  have htotal : (component c).total.toNat = total c := UInt32.toNat_ofNat_of_lt' hc.1
  have hhistorical : (component c).historical.toNat = historical c :=
    UInt32.toNat_ofNat_of_lt' hc.2
  rw [← UInt32.toNat_inj, ← UInt32.toNat_inj, htotal, hhistorical]
  exact ⟨Iff.rfl, Iff.rfl⟩

theorem forall_waiver_mem_iff (hfits : ∀ c ∈ components doc, Fits c) :
    (∀ f ∈ Evaluation.findings (report doc).components t, f.waiver ∈ ws) ↔
      ∀ c ∈ components doc, total c ≠ 0 → total c ≠ historical c →
        ∀ e ∈ entries c, IsExact e → ¬ IsTriaged e → t.IsMetBy (score e) →
          ∃ w ∈ ws, Names w c e := by
  simp only [names_iff, exists_eq_right]
  constructor
  · intro h c hc ht hh e he hx hn hs
    obtain ⟨htotal, hhistorical⟩ := counts_iff_of_fits (hfits c hc)
    refine h _ (Evaluation.mem_findings.mpr ⟨component c, List.mem_map_of_mem hc,
      htotal.not.mpr ht, hhistorical.not.mpr hh, vulnerability e, List.mem_map_of_mem he,
      counts_iff.mpr ⟨hx, hn, hs⟩, rfl⟩)
  · intro h f hf
    obtain ⟨c', hc', ht, hh, v', hv', hcounts, rfl⟩ := Evaluation.mem_findings.mp hf
    obtain ⟨c, hc, rfl⟩ := List.mem_map.mp hc'
    obtain ⟨e, he, rfl⟩ := List.mem_map.mp hv'
    obtain ⟨hx, hn, hs⟩ := counts_iff.mp hcounts
    obtain ⟨htotal, hhistorical⟩ := counts_iff_of_fits (hfits c hc)
    exact h c hc (htotal.not.mp ht) (hhistorical.not.mp hh) e he hx hn hs

/-- A report that is ready passes exactly when its document clears the artifact. -/
theorem ofReady_report_iff (hfits : ∀ c ∈ components doc, Fits c) :
    Outcome.ofReady (report doc).verdict
      (Evaluation.ofComponents (report doc).components t ws) p = .success ↔
      Clears doc t p ws := by
  have hverdict : (report doc).verdict.isPass = true ↔
      (verdict doc).get "short" = .text "Pass" := by
    rw [← textAt_eq_iff (by decide)]
    exact Verdict.isPass_ofName
  have hversioned : (∀ c ∈ (report doc).components, ¬ (c.version = none ∧ c.total ≠ 0)) ↔
      ∀ c ∈ components doc, ¬ (version c = none ∧ total c ≠ 0) := by
    simp only [report, List.forall_mem_map]
    refine forall₂_congr fun c hc => not_congr (and_congr Iff.rfl ?_)
    exact (counts_iff_of_fits (hfits c hc)).1.not
  rw [Outcome.ofReady_eq_success_iff, hverdict, Evaluation.hasActive_eq_false_iff,
    Evaluation.hasUnversioned_eq_false_iff, hversioned, forall_waiver_mem_iff hfits]
  constructor
  · rintro ⟨hv, hw, hu⟩
    exact ⟨hv, hu, hw⟩
  · rintro ⟨hv, hu, hw⟩
    exact ⟨hv, hw, hu⟩

theorem status_report {code : String} (h : status doc = .text code) :
    (report doc).status = .ofCode code := by
  have hcode : textAt "status" (results doc) = code := by
    rw [textAt, ← status, h]
    rfl
  rw [report, hcode]

end Wire

/-- The gate's decision, from the text of the report to the outcome. A run that loads the
waivers `ws` and gets an accepted report with records in object form returns a response;
it is to be retried exactly for the status `B`, fatal exactly for a status that is neither
`B` nor `R`, and for `R` a success exactly when the document clears the artifact. -/
theorem Gate.run_decides {σ : Type} {service : Service (StateM σ)}
    {load : Source → ExceptT Failure (StateM σ) WaiverList} {say : Message → StateM σ Unit}
    {request : Request} {s : σ} {ws : WaiverList} {body : String} {doc : Json} {r : Report}
    (hread : Json.read? body = some doc) (hdoc : Wire.IsDocument doc)
    (hparse : Report.parse body = .ok r) (hload : Loads load say request.source s ws)
    (hfetch : Fetches service load say request s r) :
    ∃ response s', Gives (run service load say request) s response s' ∧
      (response.outcome = .retryLater ↔ Wire.status doc = .text "B") ∧
      ((∃ obstacle, response.outcome = .fatal obstacle) ↔
        Wire.status doc ≠ .text "B" ∧ Wire.status doc ≠ .text "R") ∧
      (Wire.status doc = .text "R" →
        (response.outcome = .success ↔ Wire.Clears doc request.threshold request.policy ws) ∧
        (¬ Wire.Clears doc request.threshold request.policy ws →
          response.outcome = .findingsPresent)) := by
  obtain ⟨⟨code, hcode⟩, rfl, hfits⟩ := Wire.parse_eq hread hdoc hparse
  obtain ⟨s', hrun⟩ := run_gives hload hfetch
  have hstatus : (Wire.report doc).status = .ofCode code := Wire.status_report hcode
  obtain ⟨hbusy, -, hready⟩ := Status.ofCode_iff code
  have htext (other : String) : Wire.status doc = .text other ↔ code = other := by
    rw [hcode, Json.text, Json.text, Json.string.injEq, Option.some.injEq]
  refine ⟨_, s', hrun, ?_, ?_, ?_⟩
  · rw [htext, ← hbusy, ← hstatus]
    exact Outcome.decide_eq_retryLater_iff
  · rw [ne_eq, ne_eq, htext, htext, ← hbusy, ← hready, ← hstatus]
    exact Outcome.decide_eq_fatal_iff
  · intro hr
    have hdecided : (Wire.report doc).status = .ready := by
      rw [hstatus, hready, ← htext]
      exact hr
    simp only [respond, hdecided, Outcome.decide_ready]
    refine ⟨Wire.ofReady_report_iff hfits, fun hc => ?_⟩
    rw [← Wire.ofReady_report_iff hfits] at hc
    exact (Outcome.ofReady_cases _ _ _).resolve_left hc

/-- One component with one entry that counts. -/
def Wire.sample : Json :=
  .record [("results", .record [("status", .text "R"),
    ("components", .array [.record [("lib", .text "zlib"),
      ("vuln-count", .record [("total", .number "1")]),
      ("vulns", .array [.record [("exact", .bool true),
        ("vuln", .record [("cve", .text "CVE-1"), ("cvss", .number "9")])]])]])])]

theorem Wire.isDocument_sample : IsDocument sample where
  self := .inr ⟨_, rfl⟩
  results := .inr ⟨_, rfl⟩
  summary := .inl rfl
  verdict := .inl rfl
  components c hc := by
    obtain rfl := List.mem_singleton.mp hc
    refine ⟨.inr ⟨_, rfl⟩, .inr ⟨_, rfl⟩, fun o ho => absurd ho List.not_mem_nil, fun e he => ?_⟩
    obtain rfl := List.mem_singleton.mp he
    exact ⟨.inr ⟨_, rfl⟩, .inr ⟨_, rfl⟩⟩

theorem Wire.read?_sample : Json.read? sample.compact = some sample := by
  apply Json.read?_compact
  simp only [sample, Json.record, Json.text, Json.IsWellFormed, Json.wellFormedMembers,
    Json.wellFormedItems, List.map_cons, List.map_nil, true_and, and_true]
  exact ⟨rfl, rfl⟩

theorem Wire.parse_sample : Report.parse sample.compact = .ok (report sample) := by
  have h : Report.ofJson? sample = some (report sample) := rfl
  rw [Report.parse, read?_sample, Option.bind_some, h]

/-- A service that answers with the sample. -/
def Gate.sampleService : Service (StateM Unit) where
  submit _ _ := throw .noTarget
  report _ := ExceptT.mk (pure (Report.parse Wire.sample.compact))
  pdf _ := throw .noTarget
  link _ := ""

theorem Gate.run_decides_sample : ∃ response s',
    Gives (run sampleService (fun _ => pure []) (fun _ => pure ()) { product := ⟨"1"⟩ }) ()
      response s' ∧ response.outcome = .findingsPresent := by
  have hfetch : Fetches sampleService (fun _ => pure []) (fun _ => pure ())
      { product := ⟨"1"⟩ } () (Wire.report Wire.sample) := by
    intro ws s' _
    refine ⟨(), ?_⟩
    change (Report.parse Wire.sample.compact, ()) = _
    rw [Wire.parse_sample]
  have hload : Loads (fun _ => pure []) (fun _ => pure ()) .absent () [] := by
    rw [Loads, if_pos rfl]
  have hfound : ¬ Wire.Clears Wire.sample .standard .enforce [] := by
    intro h
    obtain ⟨w, hw, -⟩ := h.waived _ (List.mem_singleton.mpr rfl) (by decide) (by decide) _
      (List.mem_singleton.mpr rfl) (.inl rfl) (by decide) (by decide +kernel)
    cases hw
  obtain ⟨response, s', hrun, -, -, hready⟩ := Gate.run_decides Wire.read?_sample
    Wire.isDocument_sample Wire.parse_sample hload hfetch
  exact ⟨response, s', hrun, (hready rfl).2 hfound⟩

end ScanGate
