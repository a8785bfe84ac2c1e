import Mathlib.Data.Rat.Lemmas
import Mathlib.Tactic.Linarith
import Mathlib.Tactic.Ring
import ScanGate.Decimal.Shortest

/-! Rounding to a double. What lies in the interval of a double rounds to it: no other double is
as near, and at the ends of the interval the even mantissa wins. -/
namespace ScanGate

/-- The nearest whole number, told by its distance; a half goes to the even one. -/
theorem roundDiv_eq {n d m : Nat} (hd : 0 < d) (hlow : 2 * (m * d) ≤ 2 * n + d)
    (hhigh : 2 * n ≤ 2 * (m * d) + d)
    (heven : 2 * (m * d) = 2 * n + d ∨ 2 * n = 2 * (m * d) + d → m % 2 = 0) :
    roundDiv n d = m := by
  have hn := Nat.div_add_mod n d
  have hr := Nat.mod_lt n hd
  rw [Nat.mul_comm d] at hn
  unfold roundDiv
  generalize n / d = q at *
  generalize n % d = r at *
  obtain h | rfl | h := Nat.lt_trichotomy m q
  · have hmul := Nat.mul_le_mul_right d (Nat.succ_le_of_lt h)
    rw [Nat.succ_mul] at hmul
    omega
  · rw [if_neg]
    simp only [Bool.or_eq_true, Bool.and_eq_true, decide_eq_true_eq, beq_iff_eq]
    omega
  · have hmul := Nat.mul_le_mul_right d (Nat.succ_le_of_lt h)
    rw [Nat.succ_mul] at hmul
    obtain rfl | h := Nat.eq_or_lt_of_le (Nat.succ_le_of_lt h)
    · rw [Nat.succ_mul] at hlow hhigh heven
      rw [if_pos]
      simp only [Bool.or_eq_true, Bool.and_eq_true, decide_eq_true_eq, beq_iff_eq]
      omega
    · have hmul := Nat.mul_le_mul_right d (Nat.succ_le_of_lt h)
      rw [Nat.succ_mul, Nat.succ_mul] at hmul
      omega

theorem roundDiv_bounds (n d : ℕ) : n / d ≤ roundDiv n d ∧ roundDiv n d ≤ n / d + 1 := by
  unfold roundDiv
  simp only
  split <;> omega

namespace Binary64

/-- Mantissa and exponent of a double: only the least exponent has small mantissas. -/
structure IsDouble (m e : Nat) : Prop where
  lt : m < 2 ^ 53
  normal : e = 0 ∨ 2 ^ 52 ≤ m
  le : e ≤ maxExponent

/-- One of the finite doubles. Other mantissas and exponents stand for no double. -/
def IsFiniteDouble : Binary64 → Prop
  | finite _ m e => IsDouble m e
  | _ => False

/-! ### The exponent -/

theorem log2_sub_eq {q e : Nat} (hlt : q < 2 ^ (e + 53)) (hge : e = 0 ∨ 2 ^ (e + 52) ≤ q) :
    Nat.log2 q - 52 = e := by
  by_cases hq : q = 0
  · subst hq
    obtain rfl | hge := hge
    · rfl
    · exact absurd hge (Nat.not_le.mpr (Nat.two_pow_pos _))
  have hlt := (Nat.log2_lt hq).mpr hlt
  obtain rfl | hge := hge
  · omega
  · have hge := (Nat.le_log2 hq).mpr hge
    omega

/-- The exponent of a quotient is that of the doubles around it. -/
theorem exponent_eq {x d e : Nat} (hd : 0 < d) (hlt : x < 2 ^ 53 * (d * 2 ^ e))
    (hge : e = 0 ∨ 2 ^ 52 * (d * 2 ^ e) ≤ x) : Nat.log2 (x / d) - 52 = e := by
  apply log2_sub_eq
  · rw [Nat.div_lt_iff_lt_mul hd, pow_add]
    linarith
  · refine hge.imp_right fun hge => ?_
    rw [Nat.le_div_iff_mul_le hd, pow_add]
    linarith

/-! ### The interval -/

/-- From a double to half way to the one below, in quarters of the least place. -/
def gapBelow (m e : Nat) : Nat := if m = 2 ^ 52 ∧ 0 < e then 2 ^ e else 2 * 2 ^ e

theorem gapBelow_le (m e : Nat) : gapBelow m e ≤ 2 * 2 ^ e := by
  unfold gapBelow
  split <;> omega

theorem around_eq (m e : Nat) : Decimal.Interval.around m e =
    ⟨4 * m * 2 ^ e, 4 * m * 2 ^ e - gapBelow m e, 4 * m * 2 ^ e + 2 * 2 ^ e, 2 ^ (scale + 2),
      m % 2 == 0⟩ := by
  simp only [Decimal.Interval.around, gapBelow, Nat.pow_eq]

variable {m e num den : Nat}

/-- A quotient `x / d` is between the ends of the interval; at an end the mantissa is even. -/
structure Near (m e x d : Nat) : Prop where
  low : 4 * (m * (d * 2 ^ e)) ≤ 4 * x + gapBelow m e * d
  high : 4 * x ≤ 4 * (m * (d * 2 ^ e)) + 2 * (d * 2 ^ e)
  even : 4 * (m * (d * 2 ^ e)) = 4 * x + gapBelow m e * d ∨
    4 * x = 4 * (m * (d * 2 ^ e)) + 2 * (d * 2 ^ e) → m % 2 = 0

theorem near_of_holds (hm : 0 < m) (h : (Decimal.Interval.around m e).holds num den = true) :
    Near m e (num * 2 ^ scale) den := by
  have hx : num * 2 ^ (scale + 2) = 4 * (num * 2 ^ scale) := by ring
  have hvalue : 4 * m * 2 ^ e * den = 4 * (m * (den * 2 ^ e)) := by ring
  have hunit : 2 * 2 ^ e * den = 2 * (den * 2 ^ e) := by ring
  have hgap : gapBelow m e * den ≤ 4 * (m * (den * 2 ^ e)) := by
    rw [← hvalue]
    refine Nat.mul_le_mul_right _ ((gapBelow_le m e).trans (Nat.mul_le_mul_right _ ?_))
    omega
  rw [around_eq, Decimal.Interval.holds] at h
  simp only [Nat.add_mul, Nat.sub_mul, hx, hvalue, hunit] at h
  by_cases heven : m % 2 = 0
  · simp only [heven, beq_self_eq_true, if_true, Bool.and_eq_true, decide_eq_true_eq] at h
    exact ⟨Nat.sub_le_iff_le_add.mp h.1, h.2, fun _ => heven⟩
  · have hodd : (m % 2 == 0) = false := by simpa using heven
    simp only [hodd, Bool.false_eq_true, if_false, Bool.and_eq_true, decide_eq_true_eq] at h
    refine ⟨by omega, h.2.le, ?_⟩
    rintro (hend | hend) <;> omega

/-! ### Rounding -/

/-- The mantissa is rounded at the exponent of the quotient, and may be carried to the next. -/
theorem ofRatio_eq (negative : Bool) {m' : Nat}
    (he : Nat.log2 (num * 2 ^ scale / den) - 52 = e)
    (hm : roundDiv (num * 2 ^ scale) (den * 2 ^ e) = m') : ofRatio negative num den =
      if m' = 2 ^ 53 then
        if maxExponent < e + 1 then infinite negative else finite negative (2 ^ 52) (e + 1)
      else if maxExponent < e then infinite negative else finite negative m' e := by
  simp only [ofRatio, mantissaBits, Nat.pow_eq, Nat.reduceSub, he, hm, beq_iff_eq]
  by_cases hcarry : m' = 2 ^ 53
  · simp only [if_pos hcarry]
  · simp only [if_neg hcarry]

theorem ofRatio_zero (negative : Bool) (den : Nat) :
    ofRatio negative 0 den = finite negative 0 0 := by
  have he : Nat.log2 (0 * 2 ^ scale / den) - 52 = 0 := by
    rw [Nat.zero_mul, Nat.zero_div]
    rfl
  have hm : roundDiv (0 * 2 ^ scale) (den * 2 ^ 0) = 0 := by
    simp [roundDiv]
  rw [ofRatio_eq negative he hm, if_neg (by decide), if_neg (Nat.not_lt_zero _)]

/-- What lies in the interval of a double rounds to it. -/
theorem ofRatio_of_holds (negative : Bool) (h : IsDouble m e) (hm : 0 < m) (hden : 0 < den)
    (hmem : (Decimal.Interval.around m e).holds num den = true) :
    ofRatio negative num den = finite negative m e := by
  obtain ⟨hlow, hhigh, heven⟩ := near_of_holds hm hmem
  have hunit : 0 < den * 2 ^ e := Nat.mul_pos hden (Nat.two_pow_pos e)
  have hgap : gapBelow m e * den ≤ 2 * (den * 2 ^ e) := by
    refine (Nat.mul_le_mul_right den (gapBelow_le m e)).trans (le_of_eq ?_)
    ring
  have hlt := h.lt
  have hle := h.le
  have htop : m * (den * 2 ^ e) + den * 2 ^ e ≤ 2 ^ 53 * (den * 2 ^ e) := by
    rw [← Nat.succ_mul]
    exact Nat.mul_le_mul_right _ hlt
  by_cases hge : e = 0 ∨ 2 ^ 52 * (den * 2 ^ e) ≤ num * 2 ^ scale
  · -- the quotient has the exponent of the double
    have hround : roundDiv (num * 2 ^ scale) (den * 2 ^ e) = m :=
      roundDiv_eq hunit (by omega) (by omega) fun hend => heven (by omega)
    rw [ofRatio_eq negative (exponent_eq hden (by omega) hge) hround, if_neg (by omega),
      if_neg (by omega)]
  · -- just below a power of two it has the exponent before, and rounding carries
    obtain ⟨he, hx⟩ := not_or.mp hge
    obtain ⟨k, rfl⟩ := Nat.exists_eq_add_one_of_ne_zero he
    have hnormal := h.normal.resolve_left he
    have hm52 : m = 2 ^ 52 := by
      by_contra hne
      have hmul := Nat.mul_le_mul_right (den * 2 ^ (k + 1)) (show 2 ^ 52 + 1 ≤ m by omega)
      rw [Nat.succ_mul] at hmul
      omega
    subst hm52
    have hstep : gapBelow (2 ^ 52) (k + 1) * den = den * 2 ^ (k + 1) := by
      rw [gapBelow, if_pos ⟨rfl, Nat.succ_pos k⟩, Nat.mul_comm]
    have hhalf : den * 2 ^ (k + 1) = 2 * (den * 2 ^ k) := by ring
    rw [hstep] at hlow
    rw [hhalf] at hlow hhigh hx
    have hround : roundDiv (num * 2 ^ scale) (den * 2 ^ k) = 2 ^ 53 :=
      roundDiv_eq (Nat.mul_pos hden (Nat.two_pow_pos k)) (by omega) (by omega) fun _ => rfl
    have hexponent : Nat.log2 (num * 2 ^ scale / den) - 52 = k :=
      exponent_eq hden (by omega) (.inr (by omega))
    rw [ofRatio_eq negative hexponent hround, if_pos rfl, if_neg (by omega)]

/-! ### What is rounded -/

/-- The mantissa of a quotient: at most 53 bits, and just as many where the exponent is not the
least. -/
theorem mantissa_bounds {q : ℕ} :
    q / 2 ^ (Nat.log2 q - 52) < 2 ^ 53 ∧
      (Nat.log2 q - 52 = 0 ∨ 2 ^ 52 ≤ q / 2 ^ (Nat.log2 q - 52)) := by
  have hunit := Nat.two_pow_pos (Nat.log2 q - 52)
  constructor
  · rw [Nat.div_lt_iff_lt_mul hunit, ← pow_add]
    refine lt_of_lt_of_le Nat.lt_log2_self (Nat.pow_le_pow_right (by decide) (by omega))
  · refine or_iff_not_imp_left.mpr fun hne => ?_
    rw [Nat.le_div_iff_mul_le hunit, ← pow_add]
    have hq : q ≠ 0 := by
      rintro rfl
      exact hne rfl
    have hlog : 52 + (Nat.log2 q - 52) = Nat.log2 q := by omega
    rw [hlog]
    exact Nat.log2_self_le hq

/-- What is rounded is a double. -/
theorem isDouble_of_ofRatio {negative b : Bool} (h : ofRatio negative num den = finite b m e) :
    IsDouble m e := by
  obtain ⟨hlt, hge⟩ := mantissa_bounds (q := num * 2 ^ scale / den)
  have hround := roundDiv_bounds (num * 2 ^ scale)
    (den * 2 ^ (Nat.log2 (num * 2 ^ scale / den) - 52))
  rw [← Nat.div_div_eq_div_mul] at hround
  rw [ofRatio_eq negative rfl rfl] at h
  generalize Nat.log2 (num * 2 ^ scale / den) - 52 = k at *
  generalize roundDiv (num * 2 ^ scale) (den * 2 ^ k) = m' at *
  split_ifs at h with hcarry hbound hbound <;> cases h
  · exact ⟨by decide, .inr le_rfl, by omega⟩
  · exact ⟨by omega, by omega, by omega⟩

/-- A quotient of one or more is rounded to one or more. -/
theorem le_of_ofRatio {negative b : Bool} (hden : 0 < den) (hle : den ≤ num)
    (h : ofRatio negative num den = finite b m e) : 2 ^ scale ≤ m * 2 ^ e := by
  have hq : 2 ^ scale ≤ num * 2 ^ scale / den := by
    rw [Nat.le_div_iff_mul_le hden, Nat.mul_comm]
    exact Nat.mul_le_mul_right _ hle
  have hlog : scale ≤ Nat.log2 (num * 2 ^ scale / den) :=
    (Nat.le_log2 (Nat.pos_iff_ne_zero.mp (lt_of_lt_of_le (Nat.two_pow_pos scale) hq))).mpr hq
  have hscale : scale = 1074 := rfl
  have hnormal : e ≠ 0 ∧ Nat.log2 (num * 2 ^ scale / den) - 52 ≤ e := by
    rw [ofRatio_eq negative rfl rfl] at h
    generalize Nat.log2 (num * 2 ^ scale / den) = k at *
    split_ifs at h <;> cases h <;> omega
  have hm := (isDouble_of_ofRatio h).normal.resolve_left hnormal.1
  calc 2 ^ scale ≤ 2 ^ 52 * 2 ^ e := by
        rw [← pow_add]
        exact Nat.pow_le_pow_right (by decide) (by omega)
    _ ≤ m * 2 ^ e := Nat.mul_le_mul_right _ hm

end Binary64

end ScanGate
