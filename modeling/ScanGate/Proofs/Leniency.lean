import Mathlib.Data.List.Flatten
import ScanGate.Proofs.Clearance

/-! More lenient settings never fail a report that passed. A higher threshold makes
vulnerabilities, and with them whole components, drop out of the findings; more waivers
move findings from the active to the suppressed ones; an advisory verdict stands in no
way. None of the three adds a finding or changes the order of those that stay, and none
touches the components without a version or the outcome of a scan that is not ready. -/
namespace ScanGate

/-! ### A higher threshold -/

section Threshold

variable {t t' : Threshold}

theorem Vulnerability.Counts.of_le {v : Vulnerability} (ht : t.value ≤ t'.value)
    (h : v.Counts t') : v.Counts t := by
  obtain ⟨hexact, htriaged, hmet⟩ := h
  exact ⟨hexact, htriaged, hmet.of_le ht⟩

theorem Component.Reported.of_le {c : Component} (ht : t.value ≤ t'.value)
    (h : c.Reported t') : c.Reported t := by
  obtain ⟨htotal, hhistorical, v, hv, hcounts⟩ := h
  exact ⟨htotal, hhistorical, v, hv, hcounts.of_le ht⟩

theorem Component.findings_sublist (c : Component) (ht : t.value ≤ t'.value) :
    (c.findings t').Sublist (c.findings t) := by
  simp only [findings, candidates_eq]
  apply List.Sublist.map
  apply List.monotone_filter_right
  intro v hv
  rw [decide_eq_true_iff] at hv ⊢
  exact hv.of_le ht

/-- Components drop out as a whole, and of the others some findings may drop out. -/
theorem Evaluation.findings_sublist (cs : List Component) (ht : t.value ≤ t'.value) :
    (findings cs t').Sublist (findings cs t) := by
  have hreported : (cs.filter fun c => decide (c.Reported t')).Sublist
      (cs.filter fun c => decide (c.Reported t)) := by
    apply List.monotone_filter_right
    intro c hc
    rw [decide_eq_true_iff] at hc ⊢
    exact hc.of_le ht
  have hfindings : ∀ c ∈ cs.filter fun c => decide (c.Reported t),
      (c.findings t').Sublist (c.findings t) := fun c _ => c.findings_sublist ht
  exact (hreported.flatMap _).trans (List.Sublist.flatMap_right _ hfindings)

end Threshold

/-! ### More waivers -/

namespace Evaluation

/-- The findings dealt out to the active and the suppressed ones, each in their order. -/
structure DealsOut (e : Evaluation) (fs : List Finding) : Prop where
  active_sublist : e.active.Sublist fs
  suppressed_sublist : e.suppressed.Sublist fs
  perm : (e.active ++ e.suppressed).Perm fs

/-- The waivers decide how the findings are dealt out, and not what they are. -/
theorem ofComponents_dealsOut (cs : List Component) (t : Threshold) (ws : WaiverList) :
    (ofComponents cs t ws).DealsOut (findings cs t) where
  active_sublist := by
    rw [active_ofComponents]
    exact List.filter_sublist
  suppressed_sublist := by
    rw [suppressed_ofComponents]
    exact List.filter_sublist
  perm := by
    rw [active_ofComponents, suppressed_ofComponents]
    exact ws.perm_deal _

variable {cs : List Component} {t t' : Threshold} {ws ws' : WaiverList}

theorem active_sublist (ht : t.value ≤ t'.value) (hws : ws ⊆ ws') :
    (ofComponents cs t' ws').active.Sublist (ofComponents cs t ws).active := by
  rw [active_ofComponents, active_ofComponents]
  refine ((findings_sublist cs ht).filter _).trans (List.monotone_filter_right _ ?_)
  intro f hf
  rw [decide_eq_true_iff] at hf ⊢
  exact fun hw => hf (hws hw)

end Evaluation

/-! ### The outcome -/

namespace Report

open Evaluation

variable {r : Report} {t t' : Threshold} {ws ws' : WaiverList} {p p' : Policy}

theorem Clearable.of_lenient (hp : p' = p ∨ p' = .advisory) (h : r.Clearable p) :
    r.Clearable p' := by
  refine ⟨h.ready, ?_, h.versioned⟩
  rcases hp with rfl | rfl
  · exact h.verdict
  · exact .inr rfl

theorem success_of_lenient (ht : t.value ≤ t'.value) (hws : ws ⊆ ws')
    (hp : p' = p ∨ p' = .advisory) (h : r.outcome t ws p = .success) :
    r.outcome t' ws' p' = .success := by
  rw [outcome_eq_success_iff] at h ⊢
  obtain ⟨hclearable, hwaived⟩ := h
  refine ⟨hclearable.of_lenient hp, fun f hf => ?_⟩
  exact hws (hwaived f ((findings_sublist _ ht).subset hf))

/-- An outcome that is no decision comes from the status. -/
theorem outcome_eq_iff_of_undecided {o : Outcome}
    (ho : o = .retryLater ∨ ∃ obstacle, o = .fatal obstacle) (u : Threshold) (vs : WaiverList)
    (q : Policy) : r.outcome t ws p = o ↔ r.outcome u vs q = o := by
  unfold outcome
  by_cases hr : r.status = .ready
  · have hne (e : Evaluation) (p : Policy) : Outcome.decide r.status r.verdict e p ≠ o := by
      rw [hr, Outcome.decide_ready]
      rintro rfl
      have hcases := Outcome.ofReady_cases r.verdict e p
      rcases ho with ho | ⟨obstacle, ho⟩
      · simp [ho] at hcases
      · simp [ho] at hcases
    exact iff_of_false (hne _ _) (hne _ _)
  · rw [Outcome.decide_congr hr r.verdict r.verdict _ (ofComponents r.components u vs) p q]

/-- With a higher threshold, more waivers and a policy that asks for no more, the active
findings are some of those before, in their order. So are all findings, which do not
depend on the waivers; the libraries without a version are the same. What passed still
passes, and an outcome that is no decision is the same under all settings. -/
theorem lenient_settings (r : Report) (ht : t.value ≤ t'.value) (hws : ws ⊆ ws')
    (hp : p' = p ∨ p' = .advisory) :
    (ofComponents r.components t' ws').active.Sublist (ofComponents r.components t ws).active ∧
    (findings r.components t').Sublist (findings r.components t) ∧
    (∀ u vs, (ofComponents r.components u vs).DealsOut (findings r.components u)) ∧
    (ofComponents r.components t' ws').unversioned =
      (ofComponents r.components t ws).unversioned ∧
    (r.outcome t ws p = .success → r.outcome t' ws' p' = .success) ∧
    ∀ o, (o = .retryLater ∨ ∃ obstacle, o = .fatal obstacle) →
      ∀ u vs q, r.outcome t ws p = o ↔ r.outcome u vs q = o := by
  refine ⟨active_sublist ht hws, findings_sublist _ ht, ofComponents_dealsOut _, rfl,
    success_of_lenient ht hws hp, ?_⟩
  intro o ho u vs q
  exact outcome_eq_iff_of_undecided ho u vs q

/-- A component whose one finding drops out under a higher threshold, and one with scores
of every kind. -/
def scored : Report where
  status := .ready
  verdict := .pass
  detail := ""
  components := [
    { library := "zlib", version := some "1.2", total := 1
      vulnerabilities := [{ cve := "CVE-1", score := .ofNat 5 }] },
    { library := "bash", version := some "4.4", total := 4
      vulnerabilities := [{ cve := "CVE-2", score := .nan }, { cve := "CVE-3", score := .ofNat 9 },
        { cve := "CVE-4", score := .infinite false }, { cve := "CVE-5", score := .infinite true },
        { cve := "CVE-6", score := .ofInt (-8) }] }]

theorem lenient_settings_scored :
    let w : Waiver := ⟨some "CVE-3", some "bash", some "4.4", some (Place.fingerprint [])⟩
    ((ofComponents scored.components ⟨7, by decide⟩ [default, w]).active.Sublist
        (ofComponents scored.components .standard [default]).active) ∧
      scored.outcome .standard (scored.suggested .standard) .enforce = .success ∧
      scored.outcome ⟨7, by decide⟩ (w :: scored.suggested .standard) .advisory = .success := by
  have hpasses : scored.outcome .standard (scored.suggested .standard) .enforce = .success := by
    decide +kernel
  have hthreshold : Threshold.standard.value ≤ 7 := by decide
  refine ⟨?_, hpasses, ?_⟩
  · exact (lenient_settings scored hthreshold (List.subset_append_left [default] _)
      (.inl (Eq.refl Policy.enforce))).1
  · exact (lenient_settings scored hthreshold (List.subset_cons_self _ _) (.inr rfl)).2.2.2.2.1
      hpasses

end Report

end ScanGate
