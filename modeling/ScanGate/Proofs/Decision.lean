import ScanGate.Decision

/-! The table of outcomes. Each known status has one code and a pass has one name. The
status alone tells whether there is a decision, and with the decision each of verdict,
active findings and versions can stand in the way of a success on its own. -/
namespace ScanGate

/-! ### Codes and names -/

/-- Each known status has one code. -/
theorem Status.ofCode_iff (code : String) : (ofCode code = busy ↔ code = "B") ∧
    (ofCode code = failed ↔ code = "F") ∧ (ofCode code = ready ↔ code = "R") := by
  unfold ofCode
  by_cases hb : code = "B"
  · simp [hb]
  by_cases hf : code = "F"
  · simp [hf]
  by_cases hr : code = "R"
  · simp [hr]
  · simp [hb, hf, hr]

theorem Verdict.isPass_iff {v : Verdict} : v.isPass = true ↔ v = .pass := by
  cases v <;> simp [isPass]

theorem Verdict.isPass_ofName {name : String} :
    (ofName name).isPass = true ↔ name = "Pass" := by
  unfold ofName
  by_cases hp : name = "Pass"
  · simp [hp, isPass]
  by_cases hv : name = "Verify"
  · simp [hv, isPass]
  by_cases hn : name = "Vulns"
  · simp [hn, isPass]
  · simp [hp, hv, hn, isPass]

/-! ### The table -/

namespace Outcome

variable {s : Status} {v : Verdict} {e : Evaluation} {p : Policy}

theorem ofReady_eq_success_iff : ofReady v e p = .success ↔
    (v.isPass = true ∨ p = .advisory) ∧ e.hasActive = false ∧ e.hasUnversioned = false := by
  cases p with
  | enforce => simp [ofReady, Policy.requiresPass, and_assoc]
  | advisory => simp [ofReady, Policy.requiresPass]

theorem ofReady_cases (v : Verdict) (e : Evaluation) (p : Policy) :
    ofReady v e p = .success ∨ ofReady v e p = .findingsPresent := by
  unfold ofReady
  split
  · exact .inl rfl
  · exact .inr rfl

theorem decide_eq_retryLater_iff : Outcome.decide s v e p = .retryLater ↔ s = .busy := by
  cases s with
  | ready =>
    have h := ofReady_cases v e p
    simp only [Outcome.decide, ofStatus?, Option.getD_none, reduceCtorEq, iff_false]
    intro hr
    simp [hr] at h
  | _ => simp [Outcome.decide, ofStatus?]

theorem decide_eq_fatal_iff :
    (∃ o, Outcome.decide s v e p = .fatal o) ↔ s ≠ .busy ∧ s ≠ .ready := by
  cases s with
  | ready =>
    have h := ofReady_cases v e p
    simp only [Outcome.decide, ofStatus?, Option.getD_none, ne_eq, not_true_eq_false, and_false,
      iff_false]
    rintro ⟨o, hr⟩
    simp [hr] at h
  | _ => simp [Outcome.decide, ofStatus?]

theorem decide_ready : Outcome.decide .ready v e p = ofReady v e p := rfl

/-- Only a scan that is ready can succeed. -/
theorem decide_eq_success_iff :
    Outcome.decide s v e p = .success ↔ s = .ready ∧ ofReady v e p = .success := by
  cases s with
  | ready => simp [decide_ready]
  | _ => simp [Outcome.decide, ofStatus?]

/-- A scan that is not ready has its outcome from the status alone. -/
theorem decide_congr (h : s ≠ .ready) (v w : Verdict) (e d : Evaluation) (p q : Policy) :
    Outcome.decide s v e p = Outcome.decide s w d q := by
  cases s with
  | ready => exact absurd rfl h
  | _ => rfl

end Outcome

end ScanGate
