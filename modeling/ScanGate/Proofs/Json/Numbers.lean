import ScanGate.Proofs.Json.Parts

/-! Numbers read back from their digits. A literal has an exact value, which is a decimal; the
exact readers take whole numbers of any size, and the double that is nearest to the value. -/
namespace ScanGate.Json

/-! ### Exact readers -/

namespace Parts

/-- The number of the exponent. -/
def power : Option (Bool × List Char) → Int
  | some (true, digits) => -ofDigits digits
  | some (false, digits) => ofDigits digits
  | none => 0

/-- The exact value but for the sign. -/
def decimal (p : Parts) : Decimal.Numeral where
  digits := ofDigits (p.whole ++ p.fraction.getD [])
  exponent := power p.exponent - (p.fraction.getD []).length

end Parts

/-- A whole number of any size. -/
def integer? : Json → Option Int
  | number literal =>
    let p := Parts.ofLiteral literal.toList
    if p.isWhole then some (if p.minus then -ofDigits p.whole else ofDigits p.whole) else none
  | _ => none

/-- The double nearest to the exact value of a number. -/
def nearest? : Json → Option Binary64
  | number literal =>
    let p := Parts.ofLiteral literal.toList
    some (.ofRatio p.minus p.decimal.ratio.1 p.decimal.ratio.2)
  | _ => none

/-! ### Whole numbers -/

/-- The parts of a whole number. -/
def Parts.ofNat (minus : Bool) (n : Nat) : Parts := ⟨minus, Nat.toDigits 10 n, none, none⟩

theorem Parts.isProper_ofNat (minus : Bool) (n : Nat) : (ofNat minus n).IsProper :=
  ⟨whole_toDigits n, nofun, nofun⟩

theorem Parts.chars_ofNat (n : Nat) : (ofNat false n).chars = Nat.toDigits 10 n := by
  simp [chars, ofNat, fractionChars, exponentChars]

theorem numberOf_toString {n : Nat} (h : n < Nat.pow 2 64) :
    numberOf (toString n) = some (.natural n) := by
  rw [numberOf, Nat.toString_eq_repr, Nat.toList_repr, ← Parts.chars_ofNat,
    Parts.ofLiteral_chars (Parts.isProper_ofNat false n)]
  simp [Parts.value, Parts.isWhole, Parts.ofNat, ofDigits_toDigits, h]

/-- A count reads back from its digits. -/
theorem word?_nat (n : UInt32) : (nat n.toNat).word? = some n := by
  have hlt : n.toNat < Nat.pow 2 32 := n.toNat_lt
  have hfits : n.toNat < Nat.pow 2 64 := Nat.lt_trans hlt (by decide)
  rw [nat, word?, numberOf_toString hfits]
  simp [hlt]

theorem Parts.of_value_natural {p : Parts} {n : Nat} (h : p.value = some (.natural n)) :
    p.isWhole = true ∧ p.minus = false ∧ ofDigits p.whole = n := by
  unfold value at h
  simp only at h
  split at h
  · next hnatural =>
    cases h
    exact ⟨hnatural.1, by simpa using hnatural.2.1, rfl⟩
  split at h
  · cases h
  · obtain ⟨x, -, hx⟩ := Option.map_eq_some_iff.mp h
    cases hx

/-- A count that is accepted is the whole number that its literal stands for. -/
theorem integer?_of_word? {value : Json} {n : UInt32} (h : value.word? = some n) :
    value.integer? = some n.toNat := by
  cases value with
  | number literal =>
    simp only [word?] at h
    split at h
    · next k hk =>
      obtain ⟨hlt, hn⟩ := Option.ite_none_right_eq_some.mp h
      obtain ⟨hwhole, hminus, hdigits⟩ := Parts.of_value_natural hk
      rw [← Option.some.inj hn, UInt32.toNat_ofNat_of_lt' hlt]
      simp [integer?, hwhole, hminus, hdigits]
    · cases h
  | _ => cases h

/-- What is written of a whole number: a sign below zero, and the digits. -/
theorem toList_toString (i : Int) :
    (toString i).toList = (Parts.ofNat (i < 0) i.natAbs).chars := by
  cases i with
  | ofNat n =>
    have h : toString (Int.ofNat n) = toString n := rfl
    rw [h, Nat.toString_eq_repr, Nat.toList_repr, ← Parts.chars_ofNat]
    rfl
  | negSucc n =>
    have h : toString (Int.negSucc n) = "-" ++ toString (n + 1) := rfl
    rw [h, String.toList_append, Nat.toString_eq_repr, Nat.toList_repr]
    simp [Parts.chars, Parts.ofNat, Parts.fractionChars, Parts.exponentChars]

theorem isLiteral_toString (i : Int) : IsLiteral (toString i).toList := by
  rw [isLiteral_iff_numeral, toList_toString]
  exact (Parts.isProper_ofNat _ _).numeral_chars

theorem integer?_toString (i : Int) : (number (toString i)).integer? = some i := by
  have hparts : Parts.ofLiteral (toString i).toList = .ofNat (i < 0) i.natAbs := by
    rw [toList_toString, Parts.ofLiteral_chars (Parts.isProper_ofNat _ _)]
  simp only [integer?, hparts, Parts.ofNat, Parts.isWhole, ofDigits_toDigits, Option.isNone_none,
    Bool.and_self, if_true, decide_eq_true_eq, Option.some.injEq]
  split <;> omega

end ScanGate.Json
