import Mathlib.Data.List.Forall2
import ScanGate.Proofs.Evaluation.Groups

/-! What an evaluation has to be, said without the evaluator. The findings of a
component are dealt out to two lists that keep their order and lose or repeat
nothing; the side of a finding depends on the waivers that name it. This leaves one
group for a component and one evaluation for a report, and it is the one that the
evaluator returns. -/
namespace ScanGate

/-- The findings that a component has to give, one for each vulnerability that counts. -/
def Component.expected (c : Component) (t : Threshold) : List Finding :=
  (c.vulnerabilities.filter fun v => decide (v.Counts t)).map fun v =>
    { library := c.library, version := c.version, cve := v.cve, summary := v.summary
      score := v.score, fingerprint := Place.fingerprint c.places }

theorem Component.findings_eq (c : Component) (t : Threshold) : c.findings t = c.expected t := by
  rw [findings, candidates_eq]
  rfl

/-- What the group of a component has to be under a threshold and a list of waivers. -/
structure Group.Reports (g : Group) (c : Component) (t : Threshold) (ws : WaiverList) : Prop where
  library : g.library = c.library
  version : g.version = c.version
  latest : g.latest = c.latest
  active_sublist : g.active.Sublist (c.expected t)
  suppressed_sublist : g.suppressed.Sublist (c.expected t)
  perm : (g.active ++ g.suppressed).Perm (c.expected t)
  unnamed : ∀ f ∈ g.active, ∀ w ∈ ws, ¬ w.Names f
  named : ∀ f ∈ g.suppressed, ∃ w ∈ ws, w.Names f
  labelled : ∀ f ∈ g.active ++ g.suppressed,
    f.library = g.library ∧ f.version = g.version ∧ f.fingerprint = Place.fingerprint c.places

/-- A part of a list that keeps the order is all that satisfies a predicate, when the
rest does not. -/
theorem eq_filter_of_sublist_of_perm {α : Type} {p : α → Bool} {xs ys zs : List α}
    (hs : xs.Sublist zs) (hp : (xs ++ ys).Perm zs) (hx : ∀ a ∈ xs, p a = true)
    (hy : ∀ a ∈ ys, ¬ p a = true) : xs = zs.filter p := by
  have hxs : xs.filter p = xs := List.filter_eq_self.mpr hx
  have hys : ys.filter p = [] := List.filter_eq_nil_iff.mpr hy
  have hf : xs.Sublist (zs.filter p) := by simpa only [hxs] using hs.filter p
  have hl : ((xs ++ ys).filter p).length = (zs.filter p).length := (hp.filter p).length_eq
  rw [List.filter_append, hxs, hys, List.append_nil] at hl
  exact hf.eq_of_length hl

namespace Component

variable {c : Component} {t : Threshold} {ws : WaiverList}

theorem mem_expected {f : Finding} (h : f ∈ c.expected t) :
    f.library = c.library ∧ f.version = c.version ∧
      f.fingerprint = Place.fingerprint c.places := by
  obtain ⟨v, -, rfl⟩ := List.mem_map.mp h
  exact ⟨rfl, rfl, rfl⟩

theorem exists_names_iff {f : Finding} : (∃ w ∈ ws, w.Names f) ↔ f.waiver ∈ ws := by
  simp only [Waiver.names_iff, exists_eq_right]

theorem group_reports (c : Component) (t : Threshold) (ws : WaiverList) :
    (c.group t ws).Reports c t ws := by
  have hperm : ((c.group t ws).active ++ (c.group t ws).suppressed).Perm (c.expected t) := by
    rw [← c.findings_eq t]
    exact ws.perm_deal _
  refine ⟨rfl, rfl, rfl, ?_, ?_, hperm, ?_, ?_, ?_⟩
  · rw [← c.findings_eq t]
    exact List.filter_sublist
  · rw [← c.findings_eq t]
    exact List.filter_sublist
  · intro f hf w hw hn
    have hf' := (List.mem_filter.mp hf).2
    rw [decide_eq_true_iff] at hf'
    exact hf' (exists_names_iff.mp ⟨w, hw, hn⟩)
  · intro f hf
    have hf' := (List.mem_filter.mp hf).2
    rw [decide_eq_true_iff] at hf'
    exact exists_names_iff.mpr hf'
  · intro f hf
    exact mem_expected (hperm.mem_iff.mp hf)

/-- The description leaves one group only. -/
theorem eq_group_of_reports {g : Group} (h : g.Reports c t ws) : g = c.group t ws := by
  have hn : ∀ f ∈ g.active, f.waiver ∉ ws := by
    intro f hf hw
    obtain ⟨w, hw, hn⟩ := exists_names_iff.mpr hw
    exact h.unnamed f hf w hw hn
  have hs : ∀ f ∈ g.suppressed, f.waiver ∈ ws := fun f hf => exists_names_iff.mp (h.named f hf)
  have ha : g.active = (c.expected t).filter fun f => decide (f.waiver ∉ ws) := by
    apply eq_filter_of_sublist_of_perm h.active_sublist h.perm
    · simpa using hn
    · simpa using hs
  have hb : g.suppressed = (c.expected t).filter fun f => decide (f.waiver ∈ ws) := by
    apply eq_filter_of_sublist_of_perm h.suppressed_sublist (List.perm_append_comm.trans h.perm)
    · simpa using hs
    · simpa using hn
  obtain ⟨library, version, latest, active, suppressed⟩ := g
  simp only [group, Group.mk.injEq, findings_eq]
  exact ⟨h.library, h.version, h.latest, ha, hb⟩

theorem reports_iff {g : Group} : g.Reports c t ws ↔ c.group t ws = g := by
  constructor
  · intro h
    exact (eq_group_of_reports h).symm
  · rintro rfl
    exact group_reports c t ws

end Component

namespace Evaluation

/-- The evaluator returns an evaluation exactly when it has one group for each reported
component, in their order and each as described, and the libraries of all components
without a version that have vulnerabilities. -/
theorem eq_ofComponents_iff (cs : List Component) (t : Threshold) (ws : WaiverList)
    (e : Evaluation) : e = ofComponents cs t ws ↔
      List.Forall₂ (fun c g => Group.Reports g c t ws)
        (cs.filter fun c => decide (c.Reported t)) e.groups ∧
      e.unversioned =
        (cs.filter fun c => decide (c.version = none ∧ c.total ≠ 0)).map (·.library) := by
  have hg : List.Forall₂ (fun c g => Group.Reports g c t ws)
      (cs.filter fun c => decide (c.Reported t)) e.groups ↔
        (ofComponents cs t ws).groups = e.groups := by
    simp only [Component.reports_iff, groups_ofComponents]
    rw [← List.forall₂_eq_eq_eq, List.forall₂_map_left_iff]
  rw [hg, ← unversioned_ofComponents cs t ws]
  constructor
  · rintro rfl
    exact ⟨rfl, rfl⟩
  · rintro ⟨h, hu⟩
    obtain ⟨groups, unversioned⟩ := e
    simp only at h hu
    rw [← h, hu]

end Evaluation

end ScanGate
