import Mathlib.Algebra.Order.Field.Basic
import Mathlib.Data.Rat.Cast.Order
import Mathlib.Tactic.FieldSimp
import ScanGate.Proofs.Decimal.Rounding

/-! The decimal that is found lies in the interval of the double. On a grid of seventeen digits
the points are closer to each other than the ends of the interval are, so one of the two
neighbours of the double is inside. -/
namespace ScanGate.Decimal

/-! ### Values -/

/-- The number that a decimal stands for. -/
def Numeral.value (d : Numeral) : ℚ := d.digits * 10 ^ d.exponent

theorem Numeral.ratio_pos (d : Numeral) : 0 < d.ratio.2 := by
  obtain ⟨n, p | p⟩ := d
  · exact Nat.one_pos
  · exact Nat.pow_pos (by decide)

theorem Numeral.ratio_eq (d : Numeral) : (d.ratio.1 : ℚ) / d.ratio.2 = d.value := by
  obtain ⟨n, p | p⟩ := d
  · simp [ratio, value]
  · simp [ratio, value, zpow_negSucc, div_eq_mul_inv]

/-- Decimals of the same value are the same quotient. -/
theorem Numeral.ratio_cross {d d' : Numeral} (h : d.value = d'.value) :
    d.ratio.1 * d'.ratio.2 = d'.ratio.1 * d.ratio.2 := by
  have hd : (d.ratio.2 : ℚ) ≠ 0 := Nat.cast_ne_zero.mpr d.ratio_pos.ne'
  have hd' : (d'.ratio.2 : ℚ) ≠ 0 := Nat.cast_ne_zero.mpr d'.ratio_pos.ne'
  rw [← d.ratio_eq, ← d'.ratio_eq, div_eq_div_iff hd hd'] at h
  exact_mod_cast h

theorem Numeral.strip_value (fuel : Nat) (d : Numeral) : (strip fuel d).value = d.value := by
  induction fuel generalizing d with
  | zero => rfl
  | succ fuel ih =>
    rw [strip]
    split
    · next h =>
      have hdigits : d.digits = d.digits / 10 * 10 := by omega
      rw [ih, value, value, zpow_add_one₀ (by decide)]
      nth_rewrite 2 [hdigits]
      push_cast
      ring
    · rfl

/-! ### The interval -/

variable {i : Interval} {num den num' den' : Nat}

theorem Interval.holds_congr (hden : 0 < den) (hden' : 0 < den') (h : num * den' = num' * den) :
    i.holds num den = i.holds num' den' := by
  have hx : num * i.denominator * den' = num' * i.denominator * den := by
    rw [Nat.mul_right_comm, h, Nat.mul_right_comm]
  have hlow : i.low * den ≤ num * i.denominator ↔ i.low * den' ≤ num' * i.denominator := by
    rw [← Nat.mul_le_mul_right_iff hden', hx, Nat.mul_right_comm, Nat.mul_le_mul_right_iff hden]
  have hhigh : num * i.denominator ≤ i.high * den ↔ num' * i.denominator ≤ i.high * den' := by
    rw [← Nat.mul_le_mul_right_iff hden', hx, Nat.mul_right_comm i.high,
      Nat.mul_le_mul_right_iff hden]
  have hlow' : i.low * den < num * i.denominator ↔ i.low * den' < num' * i.denominator := by
    rw [← Nat.mul_lt_mul_right hden', hx, Nat.mul_right_comm, Nat.mul_lt_mul_right hden]
  have hhigh' : num * i.denominator < i.high * den ↔ num' * i.denominator < i.high * den' := by
    rw [← Nat.mul_lt_mul_right hden', hx, Nat.mul_right_comm i.high, Nat.mul_lt_mul_right hden]
  simp only [holds, hlow, hhigh, hlow', hhigh']

/-- Whether the ends belong to it or not, what is between them does. -/
theorem Interval.holds_of_lt (hlow : i.low * den < num * i.denominator)
    (hhigh : num * i.denominator < i.high * den) : i.holds num den = true := by
  simp only [holds, hlow, hhigh, hlow.le, hhigh.le, decide_true, Bool.and_self, ite_self]

/-- The decimal lies in the interval. -/
def Interval.Contains (i : Interval) (d : Numeral) : Prop := i.holds d.ratio.1 d.ratio.2 = true

theorem Interval.Contains.congr {d d' : Numeral} (h : i.Contains d) (hv : d.value = d'.value) :
    i.Contains d' := by
  rw [Contains, ← Interval.holds_congr d.ratio_pos d'.ratio_pos (Numeral.ratio_cross hv)]
  exact h

/-! ### The grid -/

theorem ratio_one (n : Nat) (k : Int) : Numeral.ratio ⟨n, k⟩ =
    (n * (Numeral.ratio ⟨1, k⟩).1, (Numeral.ratio ⟨1, k⟩).2) := by
  cases k with
  | ofNat p => simp [Numeral.ratio]
  | negSucc p => simp [Numeral.ratio]

/-- The value in steps of the grid, rounded down. -/
def Interval.floor (i : Interval) (k : Int) : Nat :=
  i.value * (Numeral.ratio ⟨1, k⟩).2 / (i.denominator * (Numeral.ratio ⟨1, k⟩).1)

theorem floor_ofNat (i : Interval) (p : Nat) :
    i.floor (.ofNat p) = i.value / (i.denominator * Nat.pow 10 p) := by
  simp [Interval.floor, Numeral.ratio]

theorem floor_negSucc (i : Interval) (p : Nat) :
    i.floor (.negSucc p) = i.value * Nat.pow 10 (p + 1) / i.denominator := by
  simp [Interval.floor, Numeral.ratio]

/-- The neighbour below on the grid. -/
def Interval.lower (i : Interval) (k : Int) : Numeral := ⟨i.floor k, k⟩

/-- The neighbour above on the grid. -/
def Interval.upper (i : Interval) (k : Int) : Numeral := ⟨i.floor k + 1, k⟩

instance (i : Interval) (d : Numeral) : Decidable (i.Contains d) :=
  inferInstanceAs (Decidable (_ = true))

theorem onGrid_eq (i : Interval) (k : Int) : i.onGrid k =
    if i.Contains (i.lower k) then
      if i.Contains (i.upper k) then
        if i.prefers (i.lower k) (i.upper k) then some (i.lower k) else some (i.upper k)
      else some (i.lower k)
    else if i.Contains (i.upper k) then some (i.upper k) else none := by
  cases k with
  | ofNat p =>
    simp only [Interval.onGrid, Interval.Contains, Interval.lower, Interval.upper, floor_ofNat]
    split <;> simp only [*, if_true, Bool.false_eq_true, if_false]
  | negSucc p =>
    simp only [Interval.onGrid, Interval.Contains, Interval.lower, Interval.upper, floor_negSucc]
    split <;> simp only [*, if_true, Bool.false_eq_true, if_false]

theorem contains_of_onGrid {k : Int} {d : Numeral} (h : i.onGrid k = some d) : i.Contains d := by
  rw [onGrid_eq] at h
  split_ifs at h with hlower hupper hprefers hupper <;> cases h
  · exact hlower
  · exact hupper
  · exact hlower
  · exact hupper

theorem onGrid_isSome_iff (i : Interval) (k : Int) :
    (i.onGrid k).isSome = true ↔ i.Contains (i.lower k) ∨ i.Contains (i.upper k) := by
  rw [onGrid_eq]
  split_ifs with hlower hupper hprefers hupper
  · simp [hlower]
  · simp [hlower]
  · simp [hlower]
  · simp [hupper]
  · simp [hlower, hupper]

/-- If the grid is finer than the interval is wide, one of the two neighbours is inside. -/
theorem onGrid_isSome {k : Int} (hN : 0 < i.denominator) (hlow : i.low < i.value)
    (hhigh : i.value < i.high)
    (hstep : (Numeral.ratio ⟨1, k⟩).1 * i.denominator <
      (i.high - i.low) * (Numeral.ratio ⟨1, k⟩).2) : (i.onGrid k).isSome = true := by
  have hb := Numeral.ratio_pos ⟨1, k⟩
  have ha : 0 < (Numeral.ratio ⟨1, k⟩).1 := by
    cases k with
    | ofNat p => exact Nat.mul_pos Nat.one_pos (Nat.pow_pos (by decide))
    | negSucc p => exact Nat.one_pos
  have hmod := Nat.mod_lt (i.value * (Numeral.ratio ⟨1, k⟩).2) (Nat.mul_pos hN ha)
  have hdiv : i.denominator * (Numeral.ratio ⟨1, k⟩).1 * i.floor k + _ = _ :=
    Nat.div_add_mod (i.value * (Numeral.ratio ⟨1, k⟩).2) _
  have hlow := Nat.mul_lt_mul_of_pos_right hlow hb
  have hhigh := Nat.mul_lt_mul_of_pos_right hhigh hb
  have hlower : i.floor k * (Numeral.ratio ⟨1, k⟩).1 * i.denominator =
      i.denominator * (Numeral.ratio ⟨1, k⟩).1 * i.floor k := by ring
  have hupper : (i.floor k + 1) * (Numeral.ratio ⟨1, k⟩).1 * i.denominator =
      i.denominator * (Numeral.ratio ⟨1, k⟩).1 * i.floor k +
        i.denominator * (Numeral.ratio ⟨1, k⟩).1 := by ring
  rw [Nat.sub_mul, Nat.mul_comm _ i.denominator] at hstep
  have hfits : i.holds (i.floor k * (Numeral.ratio ⟨1, k⟩).1) (Numeral.ratio ⟨1, k⟩).2 = true ∨
      i.holds ((i.floor k + 1) * (Numeral.ratio ⟨1, k⟩).1) (Numeral.ratio ⟨1, k⟩).2 = true := by
    by_cases hinside : i.low * (Numeral.ratio ⟨1, k⟩).2 <
        i.floor k * (Numeral.ratio ⟨1, k⟩).1 * i.denominator
    · exact .inl (i.holds_of_lt hinside (by omega))
    · exact .inr (i.holds_of_lt (by omega) (by omega))
  rw [onGrid_isSome_iff, Interval.Contains, Interval.Contains, Interval.lower, Interval.upper,
    ratio_one (i.floor k), ratio_one (i.floor k + 1)]
  exact hfits

/-! ### The leading digit -/

theorem pow_width_le {n : Nat} (hn : 0 < n) : 10 ^ (width n - 1) ≤ n := by
  by_contra hlt
  have hw : 0 < width n := Nat.length_toDigits_pos
  by_cases hone : width n - 1 = 0
  · rw [hone] at hlt
    omega
  · have hle := (Nat.length_toDigits_le_iff (b := 10) (by decide) (Nat.pos_of_ne_zero hone)).mpr
      (Nat.lt_of_not_le hlt)
    have hle : width n ≤ width n - 1 := hle
    omega

theorem lt_pow_width (n : Nat) : n < 10 ^ width n :=
  (Nat.length_toDigits_le_iff (by decide) Nat.length_toDigits_pos).mp le_rfl

theorem zpow_leadingExponent_le {num den : Nat} (hnum : 0 < num) (hden : 0 < den) :
    (10 : ℚ) ^ leadingExponent num den * den ≤ num := by
  unfold leadingExponent
  split
  · next hle =>
    have hq : 0 < num / den := Nat.div_pos hle hden
    have hpow : 10 ^ (width (num / den) - 1) * den ≤ num :=
      (Nat.le_div_iff_mul_le hden).mp (pow_width_le hq)
    have hexponent : ((width (num / den) : Int) - 1) = ((width (num / den) - 1 : Nat) : Int) := by
      have hw : 0 < width (num / den) := Nat.length_toDigits_pos
      omega
    rw [hexponent, zpow_natCast]
    exact_mod_cast hpow
  · have hw : 0 < width (den / num) := Nat.length_toDigits_pos
    have hneg (n : Nat) (h : den ≤ num * 10 ^ n) : (10 : ℚ) ^ (-(n : Int)) * den ≤ num := by
      rw [zpow_neg, zpow_natCast, inv_mul_le_iff₀ (by positivity), mul_comm]
      exact_mod_cast h
    simp only [Nat.pow_eq]
    split
    · next h =>
      have hexponent : -((width (den / num) : Int) - 1) = -((width (den / num) - 1 : Nat) : Int) := by
        omega
      rw [hexponent]
      exact hneg _ h
    · refine hneg _ ?_
      have hlt := (Nat.div_lt_iff_lt_mul hnum).mp (lt_pow_width (den / num))
      rw [Nat.mul_comm]
      exact hlt.le

/-! ### The search -/

/-- If the last grid has a point in the interval, one is found. -/
theorem contains_search {lead : Int} {fuel digits : Nat}
    (h : (i.onGrid (lead + 1 - (digits + fuel : Nat))).isSome = true) :
    i.Contains (i.search lead fuel digits) := by
  induction fuel generalizing digits with
  | zero =>
    obtain ⟨d, hd⟩ := Option.isSome_iff_exists.mp h
    rw [Nat.add_zero] at hd
    rw [Interval.search, hd]
    exact contains_of_onGrid hd
  | succ fuel ih =>
    rw [Interval.search]
    split
    · next d hd => exact contains_of_onGrid hd
    · refine ih ?_
      rw [Nat.succ_add, ← Nat.add_succ]
      exact h

variable {m e : Nat}

open Binary64 (IsDouble around_eq gapBelow gapBelow_le)

theorem around_bounds (hm : 0 < m) : (Interval.around m e).low < (Interval.around m e).value ∧
    (Interval.around m e).value < (Interval.around m e).high ∧
    (Interval.around m e).high - (Interval.around m e).low = 2 * 2 ^ e + gapBelow m e := by
  have hunit := Nat.two_pow_pos e
  have hgap : 0 < gapBelow m e := by
    unfold gapBelow
    split <;> omega
  have hle := gapBelow_le m e
  have hvalue : 2 ^ e ≤ m * 2 ^ e := Nat.le_mul_of_pos_left _ hm
  simp only [around_eq, Nat.mul_assoc 4]
  exact ⟨by omega, by omega, by omega⟩

/-- A double is no more than 2^53 of its last places. -/
theorem value_lt_width (h : IsDouble m e) (hm : 0 < m) : (Interval.around m e).value <
    ((Interval.around m e).high - (Interval.around m e).low) * 10 ^ 16 := by
  have hunit := Nat.two_pow_pos e
  rw [(around_bounds hm).2.2]
  simp only [around_eq, Nat.mul_assoc 4]
  unfold gapBelow
  split
  · next hpower =>
    rw [hpower.1]
    omega
  · have hlt := Nat.mul_lt_mul_of_pos_right h.lt hunit
    omega

theorem denominator_pos (m e : Nat) : 0 < (Interval.around m e).denominator := by
  rw [around_eq]
  exact Nat.two_pow_pos _

/-- The seventeenth digit of a double counts for less than the width of its interval. -/
theorem grid_lt_width (h : IsDouble m e) (hm : 0 < m) {k : Int}
    (hk : k + 16 = leadingExponent (Interval.around m e).value (Interval.around m e).denominator) :
    (Numeral.ratio ⟨1, k⟩).1 * (Interval.around m e).denominator <
      ((Interval.around m e).high - (Interval.around m e).low) * (Numeral.ratio ⟨1, k⟩).2 := by
  have hb := Numeral.ratio_pos ⟨1, k⟩
  have hvalue : 0 < (Interval.around m e).value := Nat.zero_lt_of_lt (around_bounds hm).1
  have hlead := zpow_leadingExponent_le hvalue (denominator_pos m e)
  have hwidth := Nat.mul_lt_mul_of_pos_right (value_lt_width h hm) hb
  have hratio := Numeral.ratio_eq ⟨1, k⟩
  rw [Numeral.value, Nat.cast_one, one_mul, div_eq_iff (by exact_mod_cast hb.ne')] at hratio
  generalize (Numeral.ratio ⟨1, k⟩).1 = a at *
  generalize (Numeral.ratio ⟨1, k⟩).2 = b at *
  generalize (Interval.around m e).high - (Interval.around m e).low = width at *
  rw [← hk, zpow_add₀ (by decide)] at hlead
  have hten : a * (Interval.around m e).denominator * 10 ^ 16 ≤ (Interval.around m e).value * b := by
    have hmul := mul_le_mul_of_nonneg_right hlead (Nat.cast_nonneg (α := ℚ) b)
    have heq : (10 : ℚ) ^ k * 10 ^ (16 : ℤ) * (Interval.around m e).denominator * b =
        a * (Interval.around m e).denominator * 10 ^ 16 := by
      rw [hratio]
      push_cast
      ring
    rw [heq] at hmul
    exact_mod_cast hmul
  have hlt := hten.trans_lt hwidth
  rw [Nat.mul_right_comm width] at hlt
  exact lt_of_mul_lt_mul_right hlt (Nat.zero_le _)

/-- The decimal that is found lies in the interval of the double. -/
theorem contains_shortest (h : IsDouble m e) (hm : 0 < m) :
    (Interval.around m e).Contains (shortest m e) := by
  obtain ⟨hlow, hhigh, -⟩ := around_bounds (e := e) hm
  have hfound : (Interval.around m e).Contains ((Interval.around m e).search (leadingExponent
      (Interval.around m e).value (Interval.around m e).denominator) 16 1) :=
    contains_search (onGrid_isSome (denominator_pos m e) hlow hhigh (grid_lt_width h hm (by omega)))
  rw [shortest, if_neg hm.ne']
  exact hfound.congr (Numeral.strip_value _ _).symm

theorem digits_pos_of_contains {d : Numeral} (hm : 0 < m) (h : (Interval.around m e).Contains d) :
    0 < d.digits := by
  refine Nat.pos_of_ne_zero fun hzero => ?_
  have hlow : 0 < (Interval.around m e).low := by
    have hunit := Nat.two_pow_pos e
    have hle := gapBelow_le m e
    have hvalue : 2 ^ e ≤ m * 2 ^ e := Nat.le_mul_of_pos_left _ hm
    simp only [around_eq, Nat.mul_assoc 4]
    omega
  have hlow := Nat.mul_pos hlow d.ratio_pos
  have hratio : d.ratio.1 = 0 := by
    rw [show d = ⟨d.digits, d.exponent⟩ from rfl, ratio_one, hzero, Nat.zero_mul]
  unfold Interval.Contains Interval.holds at h
  simp only [hratio, Nat.zero_mul] at h
  split at h <;> simp only [Bool.and_eq_true, decide_eq_true_eq] at h <;> omega

theorem shortest_eq_zero : shortest 0 e = ⟨0, 0⟩ := by
  rw [shortest, if_pos rfl]

end ScanGate.Decimal
