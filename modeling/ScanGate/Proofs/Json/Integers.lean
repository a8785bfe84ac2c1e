import Mathlib.Algebra.Ring.Int.Defs
import ScanGate.Proofs.Json.Numbers
import ScanGate.Proofs.Text.Ascii

/-! Integers are kept exactly. A numeral without point and exponent is nothing but a sign and
digits, and without needless zeros these are the only digits of their number. So a literal that
is read as an integer is the text of that integer. -/
namespace ScanGate.Json

variable {cs : List Char} {literal : String} {n : ℕ} {i : ℤ}

/-! ### Digits of a number -/

theorem digit_of_isDigit {c : Char} (h : c.isDigit = true) :
    digit c < 10 ∧ (digit c).digitChar = c := by
  have hlt : c.toNat < 128 := Text.toNat_lt_of_isAlphanum (by simp [Char.isAlphanum, h])
  have hall := Text.forall_ascii
    (p := fun c => !c.isDigit || (decide (digit c < 10) && (digit c).digitChar == c))
    (by decide) hlt
  simpa [h] using hall

theorem digit_pos {c : Char} (h : c.isDigit = true) (hz : c ≠ '0') : 0 < digit c := by
  refine Nat.pos_of_ne_zero fun hzero => hz ?_
  rw [← (digit_of_isDigit h).2, hzero]
  rfl

/-- Digits behind those of a number that is not zero. -/
theorem toDigits_append_digits (hn : 0 < n) (h : ∀ c ∈ cs, c.isDigit = true) :
    Nat.toDigits 10 n ++ cs = Nat.toDigits 10 (cs.foldl (fun n c => 10 * n + digit c) n) := by
  induction cs generalizing n with
  | nil => exact List.append_nil _
  | cons c cs ih =>
    obtain ⟨hc, hcs⟩ := List.forall_mem_cons.mp h
    obtain ⟨hlt, hchar⟩ := digit_of_isDigit hc
    have hnext : Nat.toDigits 10 n ++ [c] = Nat.toDigits 10 (10 * n + digit c) := by
      rw [← Nat.toDigits_append_toDigits (by decide) hn hlt, Nat.toDigits_of_lt_base hlt, hchar]
    rw [List.foldl_cons, ← ih (by omega) hcs, ← hnext, List.append_assoc, List.singleton_append]

/-- Digits with no needless zero in front are the digits of their number. -/
theorem toDigits_ofDigits (h : Whole cs) : Nat.toDigits 10 (ofDigits cs) = cs := by
  cases h with
  | zero => rfl
  | digits h hz =>
    obtain ⟨c, cs, rfl, hc⟩ := h.head
    obtain ⟨hlt, hchar⟩ := digit_of_isDigit hc
    have hpos : 0 < digit c := digit_pos hc fun hzero => hz (congrArg some hzero)
    have hone : [c] = Nat.toDigits 10 (digit c) := by rw [Nat.toDigits_of_lt_base hlt, hchar]
    have hfirst : 10 * 0 + digit c = digit c := by omega
    rw [ofDigits, List.foldl_cons, hfirst, ← toDigits_append_digits hpos
      fun d hd => h.2 d (List.mem_cons_of_mem c hd), ← hone, List.singleton_append]

/-! ### Literals without point and exponent -/

namespace Parts

/-- A sign and digits are all there is. -/
theorem chars_of_isWhole (h : (ofLiteral cs).isWhole = true) : (ofLiteral cs).chars = cs := by
  unfold ofLiteral at h ⊢
  split at h
  next minus rest hsign =>
  have hcs : (if minus then ['-'] else []) ++ rest = cs := by
    split at hsign <;> cases hsign <;> rfl
  have hrest : rest.dropWhile Char.isDigit = [] := by
    split at h
    next fraction left hpoint =>
    simp only [isWhole, Bool.and_eq_true, Option.isNone_iff_eq_none] at h
    obtain ⟨rfl, hexponent⟩ := h
    split at hpoint
    · cases hpoint
    · cases hpoint
      split at hexponent
      -- whatever is left behind the digits would be an exponent
      all_goals first | assumption | cases hexponent
  have hwhole : rest.takeWhile Char.isDigit = rest := by
    have happend := List.takeWhile_append_dropWhile (p := Char.isDigit) (l := rest)
    rwa [hrest, List.append_nil] at happend
  simp only [hrest, hwhole, chars, fractionChars, exponentChars, List.append_nil]
  exact hcs

theorem whole_ofLiteral (h : Numeral cs) : Whole (ofLiteral cs).whole := by
  obtain @⟨sign, whole, fraction, exponent, hs, hw, hf, he⟩ := h
  obtain ⟨hends, -, -⟩ := endsDigits_fraction_append hf he closes_nil
  rw [List.append_nil] at hends
  obtain ⟨htake, -⟩ := span_digits hw.isDigits.2 hends
  suffices h : (ofLiteral (sign ++ (whole ++ (fraction ++ exponent)))).whole = whole by rwa [h]
  obtain rfl | rfl := hs
  · obtain ⟨c, tail, rfl, hc⟩ := hw.head
    unfold ofLiteral
    split
    next minus rest hsign =>
    split at hsign
    · next heq =>
      cases heq
      exact absurd hc (by decide)
    · cases hsign
      exact htake
  · exact htake

/-- A numeral without point and exponent is a sign and the digits of a number. -/
theorem exists_ofNat_of_isWhole (h : Numeral cs) (hwhole : (ofLiteral cs).isWhole = true) :
    ∃ minus n, cs = (ofNat minus n).chars := by
  have hchars := chars_of_isWhole hwhole
  have hdigits := toDigits_ofDigits (whole_ofLiteral h)
  generalize ofLiteral cs = p at *
  obtain ⟨minus, whole, fraction, exponent⟩ := p
  obtain ⟨rfl, rfl⟩ : fraction = none ∧ exponent = none := by simpa [isWhole] using hwhole
  refine ⟨minus, ofDigits whole, ?_⟩
  rw [ofNat, hdigits]
  exact hchars.symm

theorem ofLiteral_ofNat (minus : Bool) (n : ℕ) : ofLiteral (ofNat minus n).chars = ofNat minus n :=
  ofLiteral_chars (isProper_ofNat minus n)

end Parts

/-! ### Integers of 64 bits -/

/-- What an integer has to be to be kept as one: 64 bits, with a sign when negative. -/
def IsWord (i : ℤ) : Prop := -2 ^ 63 ≤ i ∧ i < 2 ^ 64

instance (i : ℤ) : Decidable (IsWord i) := inferInstanceAs (Decidable (_ ∧ _))

/-- The integer that a value of a literal is, if it is one. -/
def Number.integer? : Number → Option ℤ
  | natural n => some n
  | negative n => some (-n)
  | real _ => none

theorem isWhole_of_integer? {p : Parts} (h : p.value.bind Number.integer? = some i) :
    p.isWhole = true := by
  obtain ⟨x, hx, hi⟩ := Option.bind_eq_some_iff.mp h
  unfold Parts.value at hx
  simp only at hx
  split at hx
  · next hnatural => exact hnatural.1
  split at hx
  · next hnegative => exact hnegative.1
  · obtain ⟨y, -, rfl⟩ := Option.map_eq_some_iff.mp hx
    cases hi

/-- A minus sign is for numbers below zero. -/
theorem integer?_ofNat (minus : Bool) (n : ℕ) :
    (Parts.ofNat minus n).value.bind Number.integer? = some i ↔
      (minus = decide (i < 0) ∧ n = i.natAbs) ∧ IsWord i := by
  have hdigits : ofDigits (Parts.ofNat minus n).whole = n := ofDigits_toDigits n
  have hminus : (Parts.ofNat minus n).minus = minus := rfl
  have hwhole : (Parts.ofNat minus n).isWhole = true := rfl
  simp only [Parts.value, hdigits, hminus, hwhole, Nat.pow_eq, true_and, IsWord]
  split
  · next hnatural =>
    obtain ⟨hplus, hlt⟩ := hnatural
    obtain rfl : minus = false := by simpa using hplus
    simp only [Option.bind_some, Number.integer?, Option.some.injEq, eq_comm (a := false),
      decide_eq_false_iff_not]
    omega
  split
  · next hnegative =>
    obtain ⟨rfl, hpos, hle⟩ := hnegative
    simp only [Option.bind_some, Number.integer?, Option.some.injEq, eq_comm (a := true),
      decide_eq_true_eq]
    omega
  · next hnatural hnegative =>
    have hreal (x : Option Binary64) :
        ((x.map fun x => Number.real (if minus then x.negate else x)).bind Number.integer?) ≠
          some i := by
      intro h
      cases x <;> cases h
    refine iff_of_false (hreal _) ?_
    rintro ⟨⟨rfl, rfl⟩, hword⟩
    simp only [Bool.not_eq_true', decide_eq_false_iff_not, decide_eq_true_eq] at hnatural hnegative
    omega

/-- A literal is read as an integer when it is the text of one of 64 bits. -/
theorem integer?_numberOf (h : Numeral literal.toList) :
    (numberOf literal).bind Number.integer? = some i ↔ literal = toString i ∧ IsWord i := by
  rw [← String.toList_inj, toList_toString, numberOf]
  constructor
  · intro hi
    obtain ⟨minus, n, hchars⟩ := Parts.exists_ofNat_of_isWhole h (isWhole_of_integer? hi)
    rw [hchars, Parts.ofLiteral_ofNat, integer?_ofNat] at hi
    obtain ⟨⟨rfl, rfl⟩, hword⟩ := hi
    exact ⟨hchars, hword⟩
  · rintro ⟨hchars, hword⟩
    rw [hchars, Parts.ofLiteral_ofNat]
    exact (integer?_ofNat _ _).mpr ⟨⟨rfl, rfl⟩, hword⟩

/-- An integer is written as its text. -/
theorem text_of_integer? {x : Number} (hx : numberOf literal = some x)
    (hi : x.integer? = some i) : x.text = toString i := by
  cases x with
  | natural n =>
    cases hi
    rfl
  | negative n =>
    unfold numberOf Parts.value at hx
    simp only at hx
    split at hx
    · cases hx
    split at hx
    · next hnegative =>
      obtain ⟨-, -, hpos, -⟩ := hnegative
      cases hx
      cases hi
      obtain ⟨k, hk⟩ := Nat.exists_eq_add_one_of_ne_zero (Nat.ne_of_gt hpos)
      rw [hk]
      rfl
    · obtain ⟨y, -, hy⟩ := Option.map_eq_some_iff.mp hx
      cases hy
  | real x => cases hi

end ScanGate.Json
