/-! Characters of ASCII. There are few enough of them that what holds of each can be looked
up. -/
namespace ScanGate.Text

variable {c : Char}

theorem forall_ascii {p : Char → Bool} (h : ∀ n < 128, p (Char.ofNat n) = true)
    (hc : c.toNat < 128) : p c = true := by
  have hp := h c.toNat hc
  rwa [Char.ofNat_toNat] at hp

theorem toNat_ofNat_of_lt {n : Nat} (h : n < 128) : (Char.ofNat n).toNat = n := by
  have hvalid : n.isValidChar := .inl (Nat.lt_trans h (by decide))
  rw [Char.ofNat, dif_pos hvalid]
  rfl

theorem toLower_of_le (h : 128 ≤ c.toNat) : c.toLower = c := by
  have hle : ¬ (c.val ≥ 'A'.val ∧ c.val ≤ 'Z'.val) := by
    rintro ⟨-, hz⟩
    rw [UInt32.le_iff_toNat_le] at hz
    have hc : c.toNat = c.val.toNat := rfl
    have hzn : 'Z'.val.toNat = 90 := rfl
    omega
  exact dif_neg hle

/-- What a character is that becomes this one in lowercase can be looked up as well. -/
theorem of_toLower_eq {p : Char → Bool} {d : Char} (hd : p d = true)
    (hp : ∀ n < 128, (Char.ofNat n).toLower = d → p (Char.ofNat n) = true)
    (h : c.toLower = d) : p c = true := by
  by_cases hc : c.toNat < 128
  · have hpc := hp c.toNat hc
    rw [Char.ofNat_toNat] at hpc
    exact hpc h
  · rw [toLower_of_le (Nat.le_of_not_lt hc)] at h
    rwa [h]

theorem toNat_lt_of_isAlphanum (h : c.isAlphanum = true) : c.toNat < 128 := by
  delta Char.isAlphanum Char.isAlpha Char.isUpper Char.isLower Char.isDigit at h
  simp only [Bool.or_eq_true, Bool.and_eq_true, decide_eq_true_eq, ge_iff_le,
    UInt32.le_iff_toNat_le] at h
  have hc : c.toNat = c.val.toNat := rfl
  have hupper : 'Z'.val.toNat = 90 := rfl
  have hlower : 'z'.val.toNat = 122 := rfl
  have hdigit : '9'.val.toNat = 57 := rfl
  omega

end ScanGate.Text
