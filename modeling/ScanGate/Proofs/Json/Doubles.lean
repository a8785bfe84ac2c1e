import ScanGate.Proofs.Decimal.Rounding
import ScanGate.Proofs.Json.Integers

/-! What a literal is read as when it is not kept as an integer. Each step of the reader is
rounded, so the result is a double; and no step makes a number of one or more less than one, so
an integer is read as zero or as one or more. -/
namespace ScanGate

namespace Binary64

/-- If the number is finite, its mantissa and exponent are those of a double. -/
def IsProper (x : Binary64) : Prop :=
  ∀ ⦃negative : Bool⦄ ⦃m e : ℕ⦄, x = finite negative m e → IsDouble m e

/-- If the number is finite, its magnitude is one or more. -/
def IsLarge (x : Binary64) : Prop :=
  ∀ ⦃negative : Bool⦄ ⦃m e : ℕ⦄, x = finite negative m e → 2 ^ scale ≤ m * 2 ^ e

variable {x y : Binary64} {num den n : ℕ}

theorem isProper_nan : nan.IsProper := nofun

theorem isLarge_nan : nan.IsLarge := nofun

theorem isProper_zero : zero.IsProper := by
  rintro _ _ _ ⟨⟩
  exact ⟨by decide, .inl rfl, by decide⟩

theorem isProper_ofRatio (negative : Bool) (num den : ℕ) : (ofRatio negative num den).IsProper :=
  fun _ _ _ => isDouble_of_ofRatio

theorem isLarge_ofRatio (negative : Bool) (hden : 0 < den) (h : den ≤ num) :
    (ofRatio negative num den).IsLarge := fun _ _ _ => le_of_ofRatio hden h

theorem isLarge_ofNat (h : 0 < n) : (ofNat n).IsLarge := isLarge_ofRatio false Nat.one_pos h

theorem isLarge_powerOfTen (k : ℕ) : (powerOfTen k).IsLarge := by
  have hpos : 0 < Nat.pow 10 k := Nat.pow_pos (by decide)
  exact isLarge_ofNat hpos

theorem isProper_times (x y : Binary64) : (x.times y).IsProper := by
  unfold times
  split
  · exact isProper_ofRatio _ _ _
  · exact isProper_nan

theorem isProper_dividedBy (x y : Binary64) : (x.dividedBy y).IsProper := by
  unfold dividedBy
  split
  · split
    · exact isProper_nan
    · exact isProper_ofRatio _ _ _
  · exact isProper_nan

theorem IsLarge.times (hx : x.IsLarge) (hy : y.IsLarge) : (x.times y).IsLarge := by
  unfold Binary64.times
  split
  · next m e _ n f =>
    have hle : 2 ^ (2 * scale) ≤ m * n * 2 ^ (e + f) := by
      calc 2 ^ (2 * scale) = 2 ^ scale * 2 ^ scale := by rw [two_mul, pow_add]
        _ ≤ m * 2 ^ e * (n * 2 ^ f) := Nat.mul_le_mul (hx rfl) (hy rfl)
        _ = m * n * 2 ^ (e + f) := by ring
    generalize 2 * scale = k at *
    exact isLarge_ofRatio false (Nat.two_pow_pos k) hle
  · exact isLarge_nan

theorem negate_negate (x : Binary64) : x.negate.negate = x := by
  cases x <;> simp [negate]

theorem IsProper.of_negate (h : x.negate.IsProper) : x.IsProper :=
  fun _ _ _ hx => h (congrArg negate hx)

theorem IsLarge.of_negate (h : x.negate.IsLarge) : x.IsLarge :=
  fun _ _ _ hx => h (congrArg negate hx)

end Binary64

namespace Json

variable {p : Parts} {x : Binary64} {s n : ℕ} {cs : List Char}

/-! ### Every result is a double -/

theorem isProper_scaleDown (hx : x.IsProper) (k : ℕ) : (scaleDown x k).IsProper := by
  fun_induction scaleDown x k with
  | case1 x k hzero => exact hx
  | case2 x k hzero hk ih => exact ih (Binary64.isProper_dividedBy _ _)
  | case3 x k hzero hk => exact Binary64.isProper_dividedBy _ _

theorem isProper_scaled {exponent : ℤ} (h : scaled s exponent = some x) : x.IsProper := by
  have hs : (Binary64.ofNat s).IsProper := Binary64.isProper_ofRatio _ _ _
  unfold scaled at h
  simp only at h
  split at h
  · rw [← Option.some.inj h]
    exact isProper_scaleDown hs _
  · split_ifs at h
    · rw [← Option.some.inj h]
      exact hs
    · rw [← Option.some.inj h]
      exact Binary64.isProper_times _ _

theorem isProper_scaledBy {start : ℤ} {exponent : Option (Bool × List Char)}
    (h : scaledBy s start exponent = some x) : x.IsProper := by
  unfold scaledBy at h
  split at h
  · exact isProper_scaled h
  · simp only at h
    split at h
    · split_ifs at h
      cases h
      exact Binary64.isProper_zero
    · exact isProper_scaled h

theorem isProper_magnitude (h : p.magnitude = some x) : x.IsProper := by
  unfold Parts.magnitude at h
  simp only at h
  split at h <;> exact isProper_scaledBy h

/-! ### Integers -/

theorem le_gather (n : ℕ) (cs : List Char) : n ≤ (gather n cs).1 := by
  induction cs generalizing n with
  | nil => exact le_rfl
  | cons c cs ih =>
    rw [gather]
    split
    · exact le_trans (by omega) (ih _)
    · exact le_rfl

/-- The significand of a number is not zero. -/
theorem gather_toDigits_pos (h : 0 < n) : 0 < (gather 0 (Nat.toDigits 10 n)).1 := by
  have hhead := head?_toDigits h
  obtain ⟨c, tail, hdigits, hc⟩ := (digits_toDigits n).head
  have hlt := (digit_of_isDigit hc).1
  rw [hdigits] at hhead ⊢
  have hpos : 0 < digit c := digit_pos hc fun hzero => hhead (congrArg some hzero)
  have hfirst : 10 * 0 + digit c = digit c := by omega
  rw [gather, hfirst, if_pos (lt_trans hlt (by decide))]
  exact lt_of_lt_of_le hpos (le_gather _ _)

theorem isLarge_scaled (hs : 0 < s) {k : ℕ} (h : scaled s k = some x) : x.IsLarge := by
  unfold scaled at h
  simp only at h
  split_ifs at h
  · rw [← Option.some.inj h]
    exact Binary64.isLarge_ofNat hs
  · rw [← Option.some.inj h]
    exact (Binary64.isLarge_ofNat hs).times (Binary64.isLarge_powerOfTen _)

theorem isLarge_magnitude {minus : Bool} (hn : 0 < n)
    (h : (Parts.ofNat minus n).magnitude = some x) : x.IsLarge :=
  isLarge_scaled (gather_toDigits_pos hn) h

/-- A number that is read as a double is its magnitude with the sign. -/
theorem magnitude_of_value (h : p.value = some (.real x)) :
    p.magnitude = some (if p.minus then x.negate else x) := by
  unfold Parts.value at h
  simp only at h
  split at h
  · cases h
  split at h
  · cases h
  · obtain ⟨y, hy, hx⟩ := Option.map_eq_some_iff.mp h
    cases hx
    rw [hy]
    split
    · rw [Binary64.negate_negate]
    · rfl

/-- A literal is read as a double, unless it is kept as an integer. -/
theorem isProper_value (h : p.value = some (.real x)) : x.IsProper := by
  have hmagnitude := isProper_magnitude (magnitude_of_value h)
  split at hmagnitude
  · exact hmagnitude.of_negate
  · exact hmagnitude

/-- An integer that is read as a double is one or more unless it is zero. -/
theorem isLarge_value {minus : Bool} (hn : 0 < n)
    (h : (Parts.ofNat minus n).value = some (.real x)) : x.IsLarge := by
  have hmagnitude := isLarge_magnitude hn (magnitude_of_value h)
  split at hmagnitude
  · exact hmagnitude.of_negate
  · exact hmagnitude

/-- Zero is kept as an integer, unless it has a minus sign. -/
theorem eq_zero_of_value {minus : Bool} (h : (Parts.ofNat minus 0).value = some (.real x)) :
    x = .finite true 0 0 := by
  cases minus with
  | false =>
    have hvalue : (Parts.ofNat false 0).value = some (.natural 0) := by decide
    rw [hvalue] at h
    cases h
  | true =>
    have hvalue : (Parts.ofNat true 0).value = some (.real (.finite true 0 0)) := by
      decide +kernel
    exact Number.real.inj (Option.some.inj (h.symm.trans hvalue))

end Json

end ScanGate
