import Mathlib.Data.List.Basic
import ScanGate.Proofs.Evaluation.Coverage
import ScanGate.Proofs.Threshold

/-! The groups of an evaluation, one component at a time. A component is reported
when it has vulnerabilities, not all of them historical, and one of those listed
counts under the threshold. The reported components give one group each, in their
order, and the waivers decide nothing but the side of a finding. All findings of an
evaluation are those of the reported components; the active ones are those without
a waiver on the list. -/
namespace ScanGate

/-- An exact match that nobody has looked at, with a score that is the threshold or more. -/
def Vulnerability.Counts (v : Vulnerability) (t : Threshold) : Prop :=
  v.exact = true ∧ v.triaged = false ∧ t.IsMetBy v.score

instance (v : Vulnerability) (t : Threshold) : Decidable (v.Counts t) :=
  inferInstanceAs (Decidable (_ ∧ _ ∧ _))

theorem Vulnerability.isCandidate_eq (v : Vulnerability) (t : Threshold) :
    v.isCandidate t = decide (v.Counts t) := by
  rw [Bool.eq_iff_iff, decide_eq_true_iff]
  simp only [isCandidate, Counts, Bool.and_eq_true, Bool.not_eq_true', and_assoc,
    Threshold.admits_iff]

namespace Component

/-- Whether the component has something to report: vulnerabilities that are not all
historical, and one that counts. -/
def Reported (c : Component) (t : Threshold) : Prop :=
  c.total ≠ 0 ∧ c.total ≠ c.historical ∧ ∃ v ∈ c.vulnerabilities, v.Counts t

instance (c : Component) (t : Threshold) : Decidable (c.Reported t) :=
  inferInstanceAs (Decidable (_ ∧ _ ∧ _))

theorem hasNew_iff {c : Component} :
    c.hasNew = true ↔ c.total ≠ 0 ∧ c.total ≠ c.historical := by
  simp [hasNew, isHistoricalOnly]

theorem isAmbiguous_iff {c : Component} :
    c.isAmbiguous = true ↔ c.version = none ∧ c.total ≠ 0 := by
  simp [isAmbiguous]

theorem candidates_eq (c : Component) (t : Threshold) :
    c.candidates t = c.vulnerabilities.filter fun v => decide (v.Counts t) := by
  simp only [candidates, Vulnerability.isCandidate_eq]

theorem reported_iff {c : Component} {t : Threshold} :
    c.Reported t ↔ c.hasNew = true ∧ c.candidates t ≠ [] := by
  rw [hasNew_iff, candidates_eq, Reported, and_assoc, ne_eq _ [], List.filter_eq_nil_iff]
  simp only [decide_eq_true_eq, not_forall, not_not, exists_prop]

/-- The group of a reported component. -/
def group (c : Component) (t : Threshold) (ws : WaiverList) : Group where
  library := c.library
  version := c.version
  latest := c.latest
  active := (c.findings t).filter fun f => decide (f.waiver ∉ ws)
  suppressed := (c.findings t).filter fun f => decide (f.waiver ∈ ws)

theorem group?_eq (c : Component) (t : Threshold) (ws : WaiverList) :
    c.group? t ws = if c.candidates t = [] then none else some (c.group t ws) := by
  unfold group?
  cases h : c.candidates t with
  | nil => rfl
  | cons v vs => simp only [group, WaiverList.covers_eq, decide_not, reduceCtorEq, if_false]

end Component

/-- Active and suppressed findings together are all findings. -/
theorem WaiverList.perm_deal (ws : WaiverList) (fs : List Finding) :
    ((fs.filter fun f => decide (f.waiver ∉ ws)) ++
      fs.filter fun f => decide (f.waiver ∈ ws)).Perm fs := by
  refine List.perm_append_comm.trans ?_
  simp only [decide_not]
  exact List.filter_append_perm _ _

namespace Evaluation

variable (cs : List Component) (t : Threshold) (ws : WaiverList)

theorem groups_ofComponents : (ofComponents cs t ws).groups =
    (cs.filter fun c => decide (c.Reported t)).map fun c => c.group t ws := by
  simp only [ofComponents]
  induction cs with
  | nil => rfl
  | cons c cs ih =>
    by_cases hn : c.hasNew = true
    · rw [List.filter_cons_of_pos hn, List.filterMap_cons, ih, Component.group?_eq]
      by_cases hc : c.candidates t = []
      · rw [List.filter_cons_of_neg (by simp [Component.reported_iff, hc])]
        simp [hc]
      · rw [List.filter_cons_of_pos (by simp [Component.reported_iff, hn, hc])]
        simp [hc]
    · rw [List.filter_cons_of_neg hn, ih,
        List.filter_cons_of_neg (by simp [Component.reported_iff, hn])]

/-- The waivers do not decide which groups there are. -/
theorem map_label_groups (vs : WaiverList) :
    (ofComponents cs t ws).groups.map (fun g => (g.library, g.version, g.latest)) =
      (ofComponents cs t vs).groups.map fun g => (g.library, g.version, g.latest) := by
  simp only [groups_ofComponents, List.map_map]
  rfl

theorem unversioned_ofComponents : (ofComponents cs t ws).unversioned =
    (cs.filter fun c => decide (c.version = none ∧ c.total ≠ 0)).map (·.library) := by
  have h (c : Component) : c.isAmbiguous = decide (c.version = none ∧ c.total ≠ 0) := by
    rw [Bool.eq_iff_iff, Component.isAmbiguous_iff, decide_eq_true_iff]
  simp only [ofComponents, h]

/-- The findings of the components, whether waived or not. -/
def findings : List Finding :=
  (cs.filter fun c => decide (c.Reported t)).flatMap (·.findings t)

theorem active_ofComponents : (ofComponents cs t ws).active =
    (findings cs t).filter fun f => decide (f.waiver ∉ ws) := by
  rw [active, groups_ofComponents, List.flatMap_map, findings, List.filter_flatMap]
  rfl

theorem suppressed_ofComponents : (ofComponents cs t ws).suppressed =
    (findings cs t).filter fun f => decide (f.waiver ∈ ws) := by
  rw [suppressed, groups_ofComponents, List.flatMap_map, findings, List.filter_flatMap]
  rfl

variable {cs t ws}

theorem mem_findings {f : Finding} : f ∈ findings cs t ↔ ∃ c ∈ cs, c.total ≠ 0 ∧
    c.total ≠ c.historical ∧ ∃ v ∈ c.vulnerabilities, v.Counts t ∧
      c.finding c.fingerprint v = f := by
  simp only [findings, List.mem_flatMap, List.mem_filter, decide_eq_true_eq, Component.findings,
    List.mem_map, Component.candidates_eq]
  constructor
  · rintro ⟨c, ⟨hc, ht, hh, -⟩, v, ⟨hv, hcounts⟩, rfl⟩
    exact ⟨c, hc, ht, hh, v, hv, hcounts, rfl⟩
  · rintro ⟨c, hc, ht, hh, v, hv, hcounts, rfl⟩
    exact ⟨c, ⟨hc, ht, hh, v, hv, hcounts⟩, v, ⟨hv, hcounts⟩, rfl⟩

theorem mem_active {f : Finding} :
    f ∈ (ofComponents cs t ws).active ↔ f ∈ findings cs t ∧ f.waiver ∉ ws := by
  simp [active_ofComponents]

theorem mem_suppressed {f : Finding} :
    f ∈ (ofComponents cs t ws).suppressed ↔ f ∈ findings cs t ∧ f.waiver ∈ ws := by
  simp [suppressed_ofComponents]

/-- Only the waivers of findings matter. -/
theorem ofComponents_congr {vs : WaiverList}
    (h : ∀ f ∈ findings cs t, f.waiver ∈ ws ↔ f.waiver ∈ vs) :
    ofComponents cs t ws = ofComponents cs t vs := by
  have hg : (ofComponents cs t ws).groups = (ofComponents cs t vs).groups := by
    rw [groups_ofComponents, groups_ofComponents]
    refine List.map_congr_left fun c hc => ?_
    have hf (f) (hf : f ∈ c.findings t) : f.waiver ∈ ws ↔ f.waiver ∈ vs :=
      h f (List.mem_flatMap.mpr ⟨c, hc, hf⟩)
    simp only [Component.group, Group.mk.injEq, true_and]
    constructor
    · exact List.filter_congr fun f hm => by simp only [hf f hm]
    · exact List.filter_congr fun f hm => by simp only [hf f hm]
  have hu : (ofComponents cs t ws).unversioned = (ofComponents cs t vs).unversioned := rfl
  calc ofComponents cs t ws
      = ⟨(ofComponents cs t ws).groups, (ofComponents cs t ws).unversioned⟩ := rfl
    _ = ⟨(ofComponents cs t vs).groups, (ofComponents cs t vs).unversioned⟩ := by rw [hg, hu]

theorem hasActive_iff {e : Evaluation} : e.hasActive = true ↔ e.active ≠ [] := by
  simp [hasActive, active]

/-- Nothing is active when every finding has its waiver on the list. -/
theorem active_eq_nil_iff :
    (ofComponents cs t ws).active = [] ↔ ∀ f ∈ findings cs t, f.waiver ∈ ws := by
  rw [List.eq_nil_iff_forall_not_mem]
  constructor
  · intro h f hf
    by_contra hw
    exact h f (mem_active.mpr ⟨hf, hw⟩)
  · intro h f hf
    obtain ⟨hfound, hw⟩ := mem_active.mp hf
    exact hw (h f hfound)

theorem hasUnversioned_iff : (ofComponents cs t ws).hasUnversioned = true ↔
    ∃ c ∈ cs, c.version = none ∧ c.total ≠ 0 := by
  simp [hasUnversioned, unversioned_ofComponents]

theorem hasActive_eq_false_iff : (ofComponents cs t ws).hasActive = false ↔
    ∀ f ∈ findings cs t, f.waiver ∈ ws := by
  rw [← active_eq_nil_iff, ← Bool.not_eq_true, hasActive_iff, not_not]

theorem hasUnversioned_eq_false_iff : (ofComponents cs t ws).hasUnversioned = false ↔
    ∀ c ∈ cs, ¬ (c.version = none ∧ c.total ≠ 0) := by
  rw [← Bool.not_eq_true, hasUnversioned_iff]
  simp only [not_exists, not_and]

theorem verdict_eq_zero_iff {e : Evaluation} : e.verdict = 0 ↔ e.active = [] := by
  have h := hasActive_iff (e := e)
  simp only [verdict]
  by_cases ha : e.active = []
  · simp_all
  · simp_all

end Evaluation

end ScanGate
