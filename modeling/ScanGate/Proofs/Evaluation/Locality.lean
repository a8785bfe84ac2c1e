import Mathlib.Data.List.FinRange
import ScanGate.Proofs.Decision
import ScanGate.Proofs.Evaluation.Groups

/-! Each component is evaluated on its own. The evaluation of a list of components is that of its
parts, one after the other, so a component adds the same groups and the same libraries whatever
stands before or behind it. Other orders of the components only put these in another order, and
the outcome does not depend on any order. -/
namespace ScanGate

namespace Evaluation

/-- One evaluation after another. -/
instance : Append Evaluation :=
  ⟨fun e f => ⟨e.groups ++ f.groups, e.unversioned ++ f.unversioned⟩⟩

/-- All evaluations of a list, one after the other. -/
def concat : List Evaluation → Evaluation
  | [] => {}
  | e :: es => e ++ concat es

variable {e f : Evaluation} {es fs : List Evaluation}

@[simp] theorem groups_append (e f : Evaluation) : (e ++ f).groups = e.groups ++ f.groups := rfl

@[simp] theorem unversioned_append (e f : Evaluation) :
    (e ++ f).unversioned = e.unversioned ++ f.unversioned := rfl

theorem groups_concat (es : List Evaluation) : (concat es).groups = es.flatMap (·.groups) := by
  induction es with
  | nil => rfl
  | cons e es ih => rw [concat, groups_append, ih, List.flatMap_cons]

theorem unversioned_concat (es : List Evaluation) :
    (concat es).unversioned = es.flatMap (·.unversioned) := by
  induction es with
  | nil => rfl
  | cons e es ih => rw [concat, unversioned_append, ih, List.flatMap_cons]

theorem hasActive_append (e f : Evaluation) :
    (e ++ f).hasActive = (e.hasActive || f.hasActive) := by
  simp only [hasActive, groups_append, List.any_append]

theorem hasUnversioned_append (e f : Evaluation) :
    (e ++ f).hasUnversioned = (e.hasUnversioned || f.hasUnversioned) := by
  cases h : e.unversioned <;> simp [hasUnversioned, h]

/-! ### Parts -/

theorem ofComponents_append (xs ys : List Component) (t : Threshold) (ws : WaiverList) :
    ofComponents (xs ++ ys) t ws = ofComponents xs t ws ++ ofComponents ys t ws := by
  simp only [ofComponents, List.filter_append, List.filterMap_append, List.map_append]
  rfl

theorem ofComponents_eq_concat (cs : List Component) (t : Threshold) (ws : WaiverList) :
    ofComponents cs t ws = concat (cs.map fun c => ofComponents [c] t ws) := by
  induction cs with
  | nil => rfl
  | cons c cs ih => rw [← List.singleton_append, ofComponents_append, ih, List.singleton_append,
      List.map_cons, concat]

/-! ### Other orders -/

theorem hasActive_concat_of_perm (h : es.Perm fs) :
    (concat es).hasActive = (concat fs).hasActive := by
  rw [hasActive, hasActive, groups_concat, groups_concat]
  exact (h.flatMap_right _).any_eq

theorem hasUnversioned_concat_of_perm (h : es.Perm fs) :
    (concat es).hasUnversioned = (concat fs).hasUnversioned := by
  rw [hasUnversioned, hasUnversioned, unversioned_concat, unversioned_concat,
    (h.flatMap_right _).isEmpty_eq]

end Evaluation

namespace Outcome

variable {s : Status} {v : Verdict} {e f : Evaluation} {p : Policy}

/-- Of an evaluation it counts whether something is active and whether a version is missing. -/
theorem decide_eq_of_flags (hactive : e.hasActive = f.hasActive)
    (hunversioned : e.hasUnversioned = f.hasUnversioned) :
    Outcome.decide s v e p = Outcome.decide s v f p := by
  rw [Outcome.decide, Outcome.decide, ofReady, ofReady, hactive, hunversioned]

theorem decide_append_eq_success_iff : Outcome.decide s v (e ++ f) p = .success ↔
    Outcome.decide s v e p = .success ∧ Outcome.decide s v f p = .success := by
  simp only [decide_eq_success_iff, ofReady_eq_success_iff, Evaluation.hasActive_append,
    Evaluation.hasUnversioned_append, Bool.or_eq_false_iff]
  constructor
  · rintro ⟨hready, hverdict, ⟨he, hf⟩, he', hf'⟩
    exact ⟨⟨hready, hverdict, he, he'⟩, hready, hverdict, hf, hf'⟩
  · rintro ⟨⟨hready, hverdict, he, he'⟩, -, -, hf, hf'⟩
    exact ⟨hready, hverdict, ⟨he, hf⟩, he', hf'⟩

end Outcome

namespace Evaluation

/-- An evaluation is local to each component. Two lists of components, one behind the other, give
the groups and the libraries of the first and then those of the second, and pass together exactly
when both pass. So each component has a part of its own, and with the components in any other
order there are the same parts in that order, and the same outcome. -/
theorem local_to_components (t : Threshold) (ws : WaiverList) :
    (∀ xs ys : List Component,
      ofComponents (xs ++ ys) t ws = ofComponents xs t ws ++ ofComponents ys t ws) ∧
    (∀ (n : ℕ) (cs : Fin n → Component) (σ : Equiv.Perm (Fin n)),
      let part (i : Fin n) := ofComponents [cs i] t ws
      ofComponents (List.ofFn cs) t ws = concat (List.ofFn part) ∧
      ofComponents (List.ofFn fun i => cs (σ i)) t ws = concat (List.ofFn fun i => part (σ i)) ∧
      ∀ (s : Status) (v : Verdict) (p : Policy),
        Outcome.decide s v (ofComponents (List.ofFn fun i => cs (σ i)) t ws) p =
          Outcome.decide s v (ofComponents (List.ofFn cs) t ws) p) ∧
    ∀ (v : Verdict) (p : Policy) (xs ys : List Component),
      Outcome.decide .ready v (ofComponents (xs ++ ys) t ws) p = .success ↔
        Outcome.decide .ready v (ofComponents xs t ws) p = .success ∧
          Outcome.decide .ready v (ofComponents ys t ws) p = .success := by
  refine ⟨fun xs ys => ofComponents_append xs ys t ws, fun n cs σ => ?_, fun v p xs ys => ?_⟩
  · have hparts (ds : Fin n → Component) : ofComponents (List.ofFn ds) t ws =
        concat (List.ofFn fun i => ofComponents [ds i] t ws) := by
      rw [ofComponents_eq_concat, List.map_ofFn]
      rfl
    have hperm := σ.ofFn_comp_perm fun i => ofComponents [cs i] t ws
    refine ⟨hparts cs, hparts _, fun s v p => ?_⟩
    rw [hparts, hparts]
    exact Outcome.decide_eq_of_flags (hasActive_concat_of_perm hperm)
      (hasUnversioned_concat_of_perm hperm)
  · rw [ofComponents_append, Outcome.decide_append_eq_success_iff]

end Evaluation

end ScanGate
