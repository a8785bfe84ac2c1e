import Mathlib.Algebra.Order.Field.Basic
import Mathlib.Algebra.Order.Field.Rat
import Mathlib.Order.WithBotTop
import Mathlib.Tactic.Positivity
import ScanGate.Threshold

/-! What the threshold asks of a score. A double is a rational number or one of the infinities,
unless it is no number at all; a score counts exactly when its value is the threshold or more. -/
namespace ScanGate

namespace Binary64

variable {n m e s : ℕ}

/-! ### Values -/

/-- The number whose binary digits are those of `m`, with the point moved to the right by `e`
places and to the left by `s`. -/
def magnitude (m e s : ℕ) : ℚ := m * 2 ^ e / 2 ^ s

theorem le_magnitude_iff : (n : ℚ) ≤ magnitude m e s ↔ n * Nat.pow 2 s ≤ m * Nat.pow 2 e := by
  have hs : (0 : ℚ) < 2 ^ s := by positivity
  rw [magnitude, le_div_iff₀ hs, Nat.pow_eq, Nat.pow_eq]
  exact_mod_cast Iff.rfl

/-- With a minus only zero is not below zero. -/
theorem le_neg_magnitude_iff : (n : ℚ) ≤ -magnitude m e s ↔ m = 0 ∧ n = 0 := by
  have hmagnitude : 0 ≤ magnitude m e s := by unfold magnitude; positivity
  constructor
  · intro h
    have hn : (n : ℚ) = 0 := le_antisymm (h.trans (neg_nonpos.mpr hmagnitude)) n.cast_nonneg
    have hzero : magnitude m e s = 0 := by
      rw [hn] at h
      exact le_antisymm (neg_nonneg.mp h) hmagnitude
    simp only [magnitude, div_eq_zero_iff, mul_eq_zero, pow_eq_zero_iff', two_ne_zero, false_and,
      or_false, Nat.cast_eq_zero] at hzero hn
    exact ⟨hzero, hn⟩
  · rintro ⟨rfl, rfl⟩
    simp [magnitude]

theorem atLeast_finite_iff :
    (finite false m e).atLeast n = true ↔ (n : ℚ) ≤ magnitude m e scale := by
  rw [le_magnitude_iff, atLeast, Bool.not_false, Bool.true_or, Bool.true_and, decide_eq_true_iff]

theorem atLeast_negative_iff :
    (finite true m e).atLeast n = true ↔ (n : ℚ) ≤ -magnitude m e scale := by
  have hpow (s : ℕ) : Nat.pow 2 s ≠ 0 := (Nat.pow_pos Nat.two_pos).ne'
  rw [le_neg_magnitude_iff, atLeast, Bool.not_true, Bool.false_or, Bool.and_eq_true, beq_iff_eq,
    decide_eq_true_iff]
  refine and_congr_right ?_
  rintro rfl
  rw [Nat.zero_mul, Nat.le_zero, Nat.mul_eq_zero, or_iff_left (hpow _)]

/-- The value among the rational numbers and the infinities, if there is one. -/
def value? : Binary64 → Option (WithBotTop ℚ)
  | nan => none
  | infinite true => some ⊥
  | infinite false => some ⊤
  | finite true m e => some (.coe (-magnitude m e scale))
  | finite false m e => some (.coe (magnitude m e scale))

theorem atLeast_iff {x : Binary64} : x.atLeast n = true ↔
    ∃ v, x.value? = some v ∧ .coe (n : ℚ) ≤ v := by
  match x with
  | nan => simp [atLeast, value?]
  | infinite true => simp [atLeast, value?]
  | infinite false => simp [atLeast, value?]
  | finite true m e =>
    simp only [atLeast_negative_iff, value?, Option.some.injEq, exists_eq_left',
      WithBotTop.coe_le_coe]
  | finite false m e =>
    simp only [atLeast_finite_iff, value?, Option.some.injEq, exists_eq_left',
      WithBotTop.coe_le_coe]

end Binary64

namespace Threshold

variable {t t' : Threshold} {score : Binary64}

/-- The score has a value, and that is the threshold or more. -/
def IsMetBy (t : Threshold) (score : Binary64) : Prop :=
  ∃ v, score.value? = some v ∧ .coe (t.value : ℚ) ≤ v

theorem admits_iff : t.admits score = true ↔ t.IsMetBy score := Binary64.atLeast_iff

instance : Decidable (t.IsMetBy score) := decidable_of_iff _ admits_iff

/-- A score that is enough for a threshold is enough for a lower one. -/
theorem IsMetBy.of_le (ht : t.value ≤ t'.value) (h : t'.IsMetBy score) : t.IsMetBy score := by
  obtain ⟨v, hv, hle⟩ := h
  have hvalue : (t.value : ℚ) ≤ t'.value := by exact_mod_cast ht
  exact ⟨v, hv, (WithBotTop.coe_le_coe.mpr hvalue).trans hle⟩

end Threshold

end ScanGate
