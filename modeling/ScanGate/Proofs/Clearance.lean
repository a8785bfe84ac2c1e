import Mathlib.Data.List.Dedup
import Mathlib.Data.List.Perm.Subperm
import ScanGate.Proofs.Decision
import ScanGate.Proofs.Evaluation.Groups
import ScanGate.Report

/-! Which reports waivers can clear, and which waivers that takes. A waiver answers for
findings and for nothing else: no list makes up for a scan that is not ready, a verdict
that has to be a pass, or a component that lacks its version. Where none of these is in
the way, a list lets the report pass exactly when it names every finding. So the waivers
that are suggested when there is no list at all are enough, and none of them can be left
out. -/
namespace ScanGate.Report

open Evaluation

/-- The outcome for a report under a threshold, a list of waivers and a policy. -/
def outcome (r : Report) (t : Threshold) (ws : WaiverList) (p : Policy) : Outcome :=
  .decide r.status r.verdict (ofComponents r.components t ws) p

/-- The report has everything that a pass needs and no waiver can give. -/
structure Clearable (r : Report) (p : Policy) : Prop where
  ready : r.status = .ready
  verdict : r.verdict = .pass ∨ p = .advisory
  versioned : ∀ c ∈ r.components, ¬ (c.version = none ∧ c.total ≠ 0)

/-- The waivers suggested for the active findings when no waiver is given. -/
def suggested (r : Report) (t : Threshold) : WaiverList :=
  (ofComponents r.components t []).active.map (·.waiver)

variable {r : Report} {t : Threshold} {ws : WaiverList} {p : Policy}

/-- A list lets a report pass when the report can be cleared and the list names every
finding. -/
theorem outcome_eq_success_iff : r.outcome t ws p = .success ↔
    r.Clearable p ∧ ∀ f ∈ findings r.components t, f.waiver ∈ ws := by
  rw [outcome, Outcome.decide_eq_success_iff, Outcome.ofReady_eq_success_iff, Verdict.isPass_iff,
    hasActive_eq_false_iff, hasUnversioned_eq_false_iff]
  constructor
  · rintro ⟨hready, hverdict, hwaived, hversioned⟩
    exact ⟨⟨hready, hverdict, hversioned⟩, hwaived⟩
  · rintro ⟨⟨hready, hverdict, hversioned⟩, hwaived⟩
    exact ⟨hready, hverdict, hwaived, hversioned⟩

/-- Without a list every finding is active, so the suggested waivers are those of all
findings. -/
theorem mem_suggested {w : Waiver} :
    w ∈ r.suggested t ↔ ∃ f ∈ findings r.components t, f.waiver = w := by
  simp only [suggested, List.mem_map, mem_active, List.not_mem_nil, not_false_eq_true, and_true]

theorem suggested_subset_iff :
    r.suggested t ⊆ ws ↔ ∀ f ∈ findings r.components t, f.waiver ∈ ws := by
  constructor
  · intro h f hf
    exact h (mem_suggested.mpr ⟨f, hf, rfl⟩)
  · intro h w hw
    obtain ⟨f, hf, rfl⟩ := mem_suggested.mp hw
    exact h f hf

/-- Some list lets the report pass exactly when it can be cleared, and then the suggested
waivers do. Every list that lets it pass has each of them, so that without repetitions
they are the least such list. -/
theorem suggested_clears_least (r : Report) (t : Threshold) (p : Policy) :
    ((∃ ws, r.outcome t ws p = .success) ↔ r.Clearable p) ∧
    (r.Clearable p → r.outcome t (r.suggested t) p = .success ∧
      r.outcome t (r.suggested t).dedup p = .success) ∧
    ∀ ws, r.outcome t ws p = .success →
      (∀ f ∈ (ofComponents r.components t []).active, f.waiver ∈ ws) ∧
        (r.suggested t).dedup.Subperm ws := by
  have hclears (ws : WaiverList) :
      r.outcome t ws p = .success ↔ r.Clearable p ∧ r.suggested t ⊆ ws := by
    rw [outcome_eq_success_iff, suggested_subset_iff]
  refine ⟨⟨?_, ?_⟩, ?_, ?_⟩
  · rintro ⟨ws, hws⟩
    exact ((hclears ws).mp hws).1
  · intro hr
    exact ⟨r.suggested t, (hclears _).mpr ⟨hr, List.Subset.refl _⟩⟩
  · intro hr
    exact ⟨(hclears _).mpr ⟨hr, List.Subset.refl _⟩, (hclears _).mpr ⟨hr, List.subset_dedup _⟩⟩
  · intro ws hws
    have hsub : r.suggested t ⊆ ws := ((hclears ws).mp hws).2
    constructor
    · intro f hf
      exact hsub (List.mem_map_of_mem hf)
    · exact List.subperm_of_subset (List.nodup_dedup _)
        (List.Subset.trans (List.dedup_subset _) hsub)

end ScanGate.Report
