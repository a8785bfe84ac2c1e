import Mathlib.Data.Finset.Card
import Mathlib.Data.Finset.SDiff
import ScanGate.Proofs.Evaluation.Groups

/-! Working through the findings of a report. In every round the report is evaluated
and the waivers of some active findings are appended to the list. What is measured is
not the number of active findings, since many of them may share a waiver, but the set
of waivers that they still lack: every round takes some of it away and puts nothing
back. So the rounds come to an end, and since waived findings stay waived, the end
does not depend on what was chosen in between. -/
namespace ScanGate.Triage

open Evaluation

variable (cs : List Component) (t : Threshold)

/-- The distinct waivers suggested for the active findings. -/
def pending (ws : WaiverList) : Finset Waiver :=
  ((ofComponents cs t ws).active.map (·.waiver)).toFinset

/-- A round appends the waivers of some active findings, in any order. -/
def Round (ws ws' : WaiverList) : Prop :=
  ∃ chosen : List Finding, chosen ≠ [] ∧ (∀ f ∈ chosen, f ∈ (ofComponents cs t ws).active) ∧
    ws' = ws ++ chosen.map (·.waiver)

/-- A number of rounds, one after the other. -/
inductive Run (start : WaiverList) : ℕ → WaiverList → Prop
  | start : Run start 0 start
  | round {k : ℕ} {ws ws' : WaiverList} :
      Run start k ws → Round cs t ws ws' → Run start (k + 1) ws'

variable {cs t} {ws ws' start : WaiverList}

theorem mem_pending {w : Waiver} :
    w ∈ pending cs t ws ↔ (∃ f ∈ findings cs t, f.waiver = w) ∧ w ∉ ws := by
  simp only [pending, List.mem_toFinset, List.mem_map, mem_active]
  constructor
  · rintro ⟨f, ⟨hf, hw⟩, rfl⟩
    exact ⟨⟨f, hf, rfl⟩, hw⟩
  · rintro ⟨⟨f, hf, rfl⟩, hw⟩
    exact ⟨f, ⟨hf, hw⟩, rfl⟩

theorem pending_eq_empty_iff : pending cs t ws = ∅ ↔ (ofComponents cs t ws).verdict = 0 := by
  rw [verdict_eq_zero_iff, pending, List.toFinset_eq_empty_iff, List.map_eq_nil_iff]

/-! ### One round -/

theorem Round.subset (h : Round cs t ws ws') : ws ⊆ ws' := by
  obtain ⟨chosen, -, -, rfl⟩ := h
  exact List.subset_append_left _ _

theorem Round.pending_ssubset (h : Round cs t ws ws') : pending cs t ws' ⊂ pending cs t ws := by
  have hs := h.subset
  obtain ⟨chosen, hne, hactive, rfl⟩ := h
  obtain ⟨f, hf⟩ := List.exists_mem_of_ne_nil chosen hne
  have hold : f.waiver ∈ pending cs t ws := by
    have := mem_active.mp (hactive f hf)
    exact mem_pending.mpr ⟨⟨f, this.1, rfl⟩, this.2⟩
  have hnew : f.waiver ∉ pending cs t (ws ++ chosen.map (·.waiver)) := by
    intro hm
    apply (mem_pending.mp hm).2
    exact List.mem_append_right _ (List.mem_map_of_mem hf)
  refine Finset.ssubset_iff_subset_ne.mpr ⟨?_, ?_⟩
  · intro w hw
    obtain ⟨hfound, hlisted⟩ := mem_pending.mp hw
    exact mem_pending.mpr ⟨hfound, fun hm => hlisted (hs hm)⟩
  · intro he
    exact hnew (he ▸ hold)

/-- Every active finding can be chosen. -/
theorem exists_round (h : (ofComponents cs t ws).verdict ≠ 0) : ∃ ws', Round cs t ws ws' := by
  rw [ne_eq, verdict_eq_zero_iff] at h
  exact ⟨_, (ofComponents cs t ws).active, h, fun f hf => hf, rfl⟩

theorem not_round (h : (ofComponents cs t ws).verdict = 0) : ¬ Round cs t ws ws' := by
  intro hr
  have hp := hr.pending_ssubset
  rw [pending_eq_empty_iff.mpr h] at hp
  exact Finset.not_ssubset_empty _ hp

/-! ### Runs -/

theorem Run.subset {k : ℕ} (h : Run cs t start k ws) : start ⊆ ws := by
  induction h with
  | start => exact List.Subset.refl _
  | round _ hr ih => exact List.Subset.trans ih hr.subset

theorem Run.card_pending {k : ℕ} (h : Run cs t start k ws) :
    k + (pending cs t ws).card ≤ (pending cs t start).card := by
  induction h with
  | start => rw [Nat.zero_add]
  | round _ hr ih =>
    have := Finset.card_lt_card hr.pending_ssubset
    omega

/-- Waivers that are appended only ever move findings from active to suppressed. -/
theorem suppressed_sublist (h : ws ⊆ ws') :
    (ofComponents cs t ws).suppressed.Sublist (ofComponents cs t ws').suppressed := by
  rw [suppressed_ofComponents, suppressed_ofComponents]
  apply List.monotone_filter_right
  intro f hf
  rw [decide_eq_true_iff] at hf ⊢
  exact h hf

theorem notMem_active_of_suppressed {f : Finding} (h : ws ⊆ ws')
    (hf : f ∈ (ofComponents cs t ws).suppressed) : f ∉ (ofComponents cs t ws').active := by
  intro ha
  exact (mem_active.mp ha).2 (h (mem_suppressed.mp hf).2)

/-- At verdict 0 every finding has its waiver on the list. -/
theorem waiver_mem_of_verdict (h : (ofComponents cs t ws).verdict = 0) {f : Finding}
    (hf : f ∈ findings cs t) : f.waiver ∈ ws := by
  rw [verdict_eq_zero_iff, active_eq_nil_iff] at h
  exact h f hf

theorem eq_of_verdict (h : (ofComponents cs t ws).verdict = 0)
    (h' : (ofComponents cs t ws').verdict = 0) :
    ofComponents cs t ws = ofComponents cs t ws' :=
  ofComponents_congr fun _ hf =>
    iff_of_true (waiver_mem_of_verdict h hf) (waiver_mem_of_verdict h' hf)

theorem run_of_rounds {run : ℕ → WaiverList} (h₀ : run 0 = start) :
    ∀ k, (∀ i < k, Round cs t (run i) (run (i + 1))) → Run cs t start k (run k)
  | 0, _ => h₀ ▸ .start
  | k + 1, h => by
    have ih := run_of_rounds h₀ k fun i hi => h i (by omega)
    exact ih.round (h k (by omega))

/-- Rounds that go on as long as something is active come to verdict 0, after at most
as many rounds as there were pending waivers. -/
theorem verdict_eq_zero_of_rounds {run : ℕ → WaiverList} (h₀ : run 0 = start)
    (h : ∀ i, (ofComponents cs t (run i)).verdict ≠ 0 → Round cs t (run i) (run (i + 1))) :
    ∃ k ≤ (pending cs t start).card, (ofComponents cs t (run k)).verdict = 0 := by
  by_contra hn
  push Not at hn
  have hr : Run cs t start ((pending cs t start).card + 1) _ :=
    run_of_rounds h₀ _ fun i hi => h i (hn i (by omega))
  have := hr.card_pending
  omega

/-- Every round of every run takes away from the pending waivers. A run has no more
rounds than there are pending waivers at its start, it can go on exactly as long as the
verdict is not 0, and if it does go on it comes to verdict 0. Suppressed findings stay
suppressed, and all runs that come to verdict 0 come to the same evaluation. -/
theorem run_converges (cs : List Component) (t : Threshold) (start : WaiverList) :
    (∀ k ws ws', Run cs t start k ws → Round cs t ws ws' →
      pending cs t ws' ⊂ pending cs t ws) ∧
    (∀ k ws, Run cs t start k ws → k ≤ (pending cs t start).card ∧
      ((ofComponents cs t ws).verdict ≠ 0 ↔ ∃ ws', Round cs t ws ws')) ∧
    (∀ run : ℕ → WaiverList, run 0 = start →
      (∀ i, (ofComponents cs t (run i)).verdict ≠ 0 → Round cs t (run i) (run (i + 1))) →
      ∃ k ≤ (pending cs t start).card, (ofComponents cs t (run k)).verdict = 0) ∧
    (∀ k ws l ws', Run cs t start k ws → Run cs t ws l ws' →
      (ofComponents cs t ws).suppressed.Sublist (ofComponents cs t ws').suppressed ∧
      ∀ f ∈ (ofComponents cs t ws).suppressed, f ∉ (ofComponents cs t ws').active) ∧
    (∀ k ws l ws', Run cs t start k ws → Run cs t start l ws' →
      (ofComponents cs t ws).verdict = 0 → (ofComponents cs t ws').verdict = 0 →
      ofComponents cs t ws = ofComponents cs t ws') := by
  refine ⟨fun k ws ws' _ hr => hr.pending_ssubset, ?_, ?_, ?_, ?_⟩
  · intro k ws h
    have hc := h.card_pending
    refine ⟨by omega, exists_round, ?_⟩
    rintro ⟨ws', hr⟩ hv
    exact not_round hv hr
  · intro run h₀ h
    exact verdict_eq_zero_of_rounds h₀ h
  · intro k ws l ws' _ h
    exact ⟨suppressed_sublist h.subset, fun f hf => notMem_active_of_suppressed h.subset hf⟩
  · intro k ws l ws' _ _ hv hv'
    exact eq_of_verdict hv hv'

end ScanGate.Triage
