import Mathlib.Data.List.Forall2
import ScanGate.Proofs.Evaluation.Groups
import ScanGate.Proofs.Gate.Calls

/-! A view accounts for the response. Every group of the evaluation is shown, in order and with
the findings of both its lists; each active finding comes with the one waiver that fits it. The
counts are those of what is shown. A success is shown with exit code 0 and with nothing that
speaks against it, and no other outcome has that code. -/
namespace ScanGate

/-! ### Findings and groups -/

/-- An active finding comes with the waiver that fits it, the only one that does; a suppressed one
comes without. -/
inductive FindingView.Suggests (v : FindingView) (f : Finding) : Prop
  | active (w : Waiver) (active : v.active = true) (suggestion : v.suggestion = some [w])
      (fits : ∀ u : Waiver, u.fits f = true ↔ u = w)
  | suppressed (suppressed : v.active = false) (suggestion : v.suggestion = none)

structure FindingView.Shows (v : FindingView) (f : Finding) : Prop where
  cve : v.cve = f.cve
  summary : v.summary = f.summary
  score : v.score = f.score
  suggests : v.Suggests f

/-- The group is shown with the findings of its two lists, each list in its order. -/
structure GroupView.Shows (v : GroupView) (g : Group) : Prop where
  library : v.library = g.library
  version : v.version = g.version
  latest : v.latest = g.latest
  active : List.Forall₂ FindingView.Shows (v.findings.filter (·.active)) g.active
  suppressed : List.Forall₂ FindingView.Shows (v.findings.filter (!·.active)) g.suppressed

theorem Finding.shows_view (active : Bool) (f : Finding) : (f.view active).Shows f where
  cve := rfl
  summary := rfl
  score := rfl
  suggests := by
    cases active with
    | true => exact .active f.waiver rfl rfl fun _ => Waiver.fits_iff
    | false => exact .suppressed rfl rfl

theorem Finding.forall₂_view (active : Bool) (fs : List Finding) :
    List.Forall₂ FindingView.Shows (fs.map (·.view active)) fs := by
  rw [List.forall₂_map_left_iff, List.forall₂_same]
  exact fun f _ => f.shows_view active

namespace Group

theorem filter_active_view (g : Group) :
    g.view.findings.filter (·.active) = g.active.map (·.view true) := by
  simp only [view, List.filter_append, List.filter_map, Function.comp_def, Finding.view,
    List.filter_true, List.filter_false, List.map_nil, List.append_nil]

theorem filter_suppressed_view (g : Group) :
    g.view.findings.filter (!·.active) = g.suppressed.map (·.view false) := by
  simp only [view, List.filter_append, List.filter_map, Function.comp_def, Finding.view,
    Bool.not_true, Bool.not_false, List.filter_true, List.filter_false, List.map_nil,
    List.nil_append]

theorem shows_view (g : Group) : g.view.Shows g where
  library := rfl
  version := rfl
  latest := rfl
  active := by
    rw [filter_active_view]
    exact Finding.forall₂_view true _
  suppressed := by
    rw [filter_suppressed_view]
    exact Finding.forall₂_view false _

end Group

namespace View

/-! ### The whole evaluation -/

/-- All findings that are shown. -/
def findings (v : View) : List FindingView := v.groups.flatMap (·.findings)

/-- The view shows the evaluation, and its counts are those of what it shows. -/
structure Accounts (v : View) (e : Evaluation) : Prop where
  groups : List.Forall₂ GroupView.Shows v.groups e.groups
  unversioned : v.unversioned = e.unversioned
  activeCount : v.activeCount = v.findings.countP (·.active)
  suppressedCount : v.suppressedCount = v.findings.countP (!·.active)
  unversionedCount : v.unversionedCount = v.unversioned.length

variable {r : Response} {e : Evaluation}

theorem filter_active_findings (h : r.evaluation.getD {} = e) :
    (ofResponse r).findings.filter (·.active) = e.active.map (·.view true) := by
  simp only [findings, ofResponse, h, List.filter_flatMap, List.flatMap_map,
    Group.filter_active_view, Evaluation.active, List.map_flatMap]

theorem filter_suppressed_findings (h : r.evaluation.getD {} = e) :
    (ofResponse r).findings.filter (!·.active) = e.suppressed.map (·.view false) := by
  simp only [findings, ofResponse, h, List.filter_flatMap, List.flatMap_map,
    Group.filter_suppressed_view, Evaluation.suppressed, List.map_flatMap]

theorem accounts_ofResponse (h : r.evaluation.getD {} = e) : (ofResponse r).Accounts e where
  groups := by
    rw [ofResponse, h, List.forall₂_map_left_iff, List.forall₂_same]
    exact fun g _ => g.shows_view
  unversioned := by rw [ofResponse, h]
  activeCount := by
    rw [List.countP_eq_length_filter, filter_active_findings h, List.length_map, ofResponse, h]
  suppressedCount := by
    rw [List.countP_eq_length_filter, filter_suppressed_findings h, List.length_map, ofResponse, h]
  unversionedCount := rfl

/-- Nothing is active that is not in the evaluation. -/
theorem active_eq_false_of_mem (h : r.evaluation.getD {} = e) (ha : e.active = [])
    {f : FindingView} (hf : f ∈ (ofResponse r).findings) : f.active = false := by
  have hfilter := filter_active_findings h
  rw [ha, List.map_nil, List.filter_eq_nil_iff] at hfilter
  exact Bool.not_eq_true _ ▸ hfilter f hf

/-! ### The outcome -/

theorem outcome_eq_success_iff : (ofResponse r).outcome = .success ↔ r.outcome = .success := by
  rw [ofResponse]
  cases r.outcome <;> simp [Outcome.kind]

theorem exitCode_eq_zero_iff : (ofResponse r).exitCode = 0 ↔ r.outcome = .success := by
  rw [ofResponse]
  cases r.outcome <;> simp [Outcome.exitCode, ExitCode.toNat]

/-- A report passes when it is evaluated and has nothing active and no version missing. -/
theorem clear_of_success {request : Gate.Request} {report : Report} {ws : WaiverList}
    (h : Gate.Concludes request report ws r) (hr : r.outcome = .success) :
    ∃ e, r.evaluation = some e ∧ e.active = [] ∧ e.unversioned = [] := by
  rw [h.outcome, Outcome.decide_eq_success_iff, Outcome.ofReady_eq_success_iff] at hr
  obtain ⟨hready, -, hactive, hunversioned⟩ := hr
  refine ⟨_, (h.evaluation _).mpr ⟨hready, rfl⟩, ?_, ?_⟩
  · rwa [← Bool.not_eq_true, Evaluation.hasActive_iff, not_not] at hactive
  · simpa [Evaluation.hasUnversioned] using hunversioned

open Gate (Gives)

/-- The view of a response that a run returns shows its evaluation, if there is one, and nothing
otherwise; every group and every finding is there, on the side and in the order where it is in
the evaluation. The response is a success exactly when a success is shown, and exactly when the
exit code is 0; then nothing active is shown and no library without a version. -/
theorem accounts_for_response {σ : Type} {service : Service (StateM σ)}
    {load : Source → ExceptT Failure (StateM σ) WaiverList} {say : Message → StateM σ Unit}
    {request : Gate.Request} {s s' : σ}
    (hrun : Gives (Gate.run service load say request) s r s') :
    (∀ e, r.evaluation = some e → (ofResponse r).Accounts e) ∧
    (r.evaluation = none → (ofResponse r).Accounts {}) ∧
    ((ofResponse r).outcome = .success ↔ r.outcome = .success) ∧
    ((ofResponse r).outcome = .success ↔ (ofResponse r).exitCode = 0) ∧
    ((ofResponse r).outcome = .success →
      (∀ f ∈ (ofResponse r).findings, f.active = false) ∧ (ofResponse r).unversioned = []) := by
  refine ⟨fun e he => accounts_ofResponse (by rw [he]; rfl),
    fun he => accounts_ofResponse (by rw [he]; rfl), outcome_eq_success_iff, ?_, ?_⟩
  · rw [outcome_eq_success_iff, exitCode_eq_zero_iff]
  · intro h
    obtain ⟨ws, report, -, -, hconcludes⟩ := Gate.concludes_of_gives hrun
    obtain ⟨e, he, hactive, hunversioned⟩ :=
      clear_of_success hconcludes (outcome_eq_success_iff.mp h)
    have hshown : r.evaluation.getD {} = e := by rw [he]; rfl
    refine ⟨fun f hf => active_eq_false_of_mem hshown hactive hf, ?_⟩
    rw [(accounts_ofResponse hshown).unversioned, hunversioned]

/-- Two findings of one library. -/
def twoFindings : Report where
  status := .ready
  verdict := .pass
  detail := ""
  components := [{
    library := "zlib", version := some "1.2", total := 2
    vulnerabilities := [{ cve := "CVE-1", score := .ofNat 9 }, { cve := "CVE-2", score := .nan },
      { cve := "CVE-3", score := .ofNat 5 }] }]

/-- With a waiver for the second finding, the first is shown as active; with one for each, a
success is shown. -/
theorem accounts_for_response_twoFindings :
    let waiver (cve : String) : Waiver :=
      ⟨some cve, some "zlib", some "1.2", some (Place.fingerprint [])⟩
    let run (ws : WaiverList) := Gate.run (Gate.serving twoFindings) (fun _ => pure ws)
      (fun _ => pure ()) { product := ⟨"1"⟩, source := .environment "WAIVERS" }
    (∃ response, Gives (run [waiver "CVE-3"]) () response () ∧
      (ofResponse response).activeCount = 1 ∧ (ofResponse response).suppressedCount = 1 ∧
      (ofResponse response).findings.countP (·.active) = 1) ∧
    ∃ response, Gives (run [waiver "CVE-3", waiver "CVE-1"]) () response () ∧
      (ofResponse response).exitCode = 0 ∧ (ofResponse response).suppressedCount = 2 ∧
      ∀ f ∈ (ofResponse response).findings, f.active = false := by
  intro waiver run
  have hrun (ws : WaiverList) : ∃ response, Gives (run ws) () response () ∧
      response = Gate.respond { product := ⟨"1"⟩, source := .environment "WAIVERS" } ""
        twoFindings ws := by
    have hload : Gate.Loads (σ := Unit) (fun _ => pure ws) (fun _ => pure ())
        (.environment "WAIVERS") () ws := ⟨(), rfl⟩
    have hfetch : Gate.Fetches (Gate.serving twoFindings) (fun _ => pure ws) (fun _ => pure ())
        { product := ⟨"1"⟩, source := .environment "WAIVERS" } () twoFindings :=
      fun _ _ _ => ⟨(), rfl⟩
    obtain ⟨_, h⟩ := Gate.run_gives hload hfetch
    exact ⟨_, h, rfl⟩
  constructor
  · obtain ⟨response, h, hresponse⟩ := hrun [waiver "CVE-3"]
    have hactive : (ofResponse response).activeCount = 1 := by
      rw [hresponse]
      decide +kernel
    have heval : ∃ e, response.evaluation = some e := by
      rw [hresponse]
      exact ⟨_, rfl⟩
    obtain ⟨e, he⟩ := heval
    refine ⟨response, h, hactive, ?_, ?_⟩
    · rw [hresponse]
      decide +kernel
    · rw [← ((accounts_for_response h).1 e he).activeCount, hactive]
  · obtain ⟨response, h, hresponse⟩ := hrun [waiver "CVE-3", waiver "CVE-1"]
    have hcode : (ofResponse response).exitCode = 0 := by
      rw [hresponse]
      decide +kernel
    obtain ⟨-, -, -, hexit, hclear⟩ := accounts_for_response h
    refine ⟨response, h, hcode, ?_, (hclear (hexit.mpr hcode)).1⟩
    rw [hresponse]
    decide +kernel

end View

end ScanGate
