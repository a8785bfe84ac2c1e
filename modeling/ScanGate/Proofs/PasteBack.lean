import ScanGate.Proofs.Evaluation.Reference
import ScanGate.Proofs.Waivers

/-! Pasting the suggestions back. Every active finding is shown with a text that reads
back as the one waiver that names the finding. When all these texts are read and their
waivers are appended to the list, nothing is active any more, and every finding is
suppressed at its place in the report. -/
namespace ScanGate

namespace Evaluation

/-- The waivers in the texts that are shown with the active findings. -/
def pasted (e : Evaluation) : Except Failure WaiverList := do
  let lists ← (e.active.map fun f => f.suggestion.text).mapM WaiverList.parse
  return lists.flatten

theorem parse_suggestion (f : Finding) :
    WaiverList.parse f.suggestion.text = .ok [f.waiver] :=
  WaiverList.parse_text _

theorem mapM_parse_suggestion (fs : List Finding) :
    (fs.map fun f => f.suggestion.text).mapM WaiverList.parse =
      .ok (fs.map fun f => [f.waiver]) := by
  induction fs with
  | nil => rfl
  | cons f fs ih =>
    rw [List.map_cons, List.mapM_cons, parse_suggestion, ih]
    rfl

theorem pasted_eq (e : Evaluation) : e.pasted = .ok (e.active.map (·.waiver)) := by
  have hlists : (e.active.map fun f => [f.waiver]).flatten = e.active.map (·.waiver) :=
    List.map_eq_flatMap.symm
  rw [pasted, mapM_parse_suggestion, ← hlists]
  rfl

variable {cs : List Component} {t : Threshold} {ws vs : WaiverList}

theorem waiver_mem_of_append_active (h : vs = ws ++ (ofComponents cs t ws).active.map (·.waiver))
    {f : Finding} (hf : f ∈ findings cs t) : f.waiver ∈ vs := by
  subst h
  by_cases hw : f.waiver ∈ ws
  · exact List.mem_append_left _ hw
  · exact List.mem_append_right _ (List.mem_map_of_mem (mem_active.mpr ⟨hf, hw⟩))

/-- A list that holds the waivers of all findings suppresses them all. -/
theorem group_of_forall_mem {c : Component} (h : ∀ f ∈ c.expected t, f.waiver ∈ ws) :
    (c.group t ws).active = [] ∧ (c.group t ws).suppressed = c.expected t := by
  simp only [Component.group, c.findings_eq t]
  constructor
  · rw [List.filter_eq_nil_iff]
    intro f hf
    simpa using h f hf
  · rw [List.filter_eq_self]
    intro f hf
    simpa using h f hf

/-- Every suggested text reads as one waiver that is no placeholder, and with all of them
appended to the list the same groups come out with nothing active and everything that
counts suppressed in the order of the report. -/
theorem pasted_closes (cs : List Component) (t : Threshold) (ws : WaiverList) :
    (∀ f ∈ (ofComponents cs t ws).active, ∃ w,
      WaiverList.parse f.suggestion.text = .ok [w] ∧ w.isPlaceholder = false) ∧
    ∃ vs, (ofComponents cs t ws).pasted = .ok vs ∧
      (ofComponents cs t (ws ++ vs)).verdict = 0 ∧
      (ofComponents cs t (ws ++ vs)).groups.map (fun g => (g.library, g.version, g.latest)) =
        (ofComponents cs t ws).groups.map (fun g => (g.library, g.version, g.latest)) ∧
      List.Forall₂ (fun c g => Group.active g = [] ∧ g.suppressed = Component.expected c t)
        (cs.filter fun c => decide (c.Reported t)) (ofComponents cs t (ws ++ vs)).groups ∧
      (ofComponents cs t (ws ++ vs)).unversioned = (ofComponents cs t ws).unversioned := by
  refine ⟨fun f _ => ⟨f.waiver, parse_suggestion f, f.isPlaceholder_waiver⟩, _, pasted_eq _,
    ?_, map_label_groups cs t _ ws, ?_, rfl⟩
  · rw [verdict_eq_zero_iff, active_eq_nil_iff]
    intro f hf
    exact waiver_mem_of_append_active rfl hf
  · rw [groups_ofComponents, List.forall₂_map_right_iff, List.forall₂_same]
    intro c hc
    apply group_of_forall_mem
    intro f hf
    rw [← c.findings_eq t] at hf
    exact waiver_mem_of_append_active rfl (List.mem_flatMap.mpr ⟨c, hc, hf⟩)

end Evaluation

end ScanGate
