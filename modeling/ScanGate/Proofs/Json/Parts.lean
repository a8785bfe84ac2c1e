import Mathlib.Algebra.Group.Nat.Defs
import ScanGate.Json.Decode
import ScanGate.Proofs.Json.Literals

/-! A literal and its parts. Proper parts put together are a numeral and come apart again. -/
namespace ScanGate.Json

/-! ### Digits -/

theorem ofDigits_eq (cs : List Char) : ofDigits cs = Nat.ofDigitChars 10 cs 0 :=
  Nat.ofDigitChars_eq_foldl.symm

theorem ofDigits_append (xs ys : List Char) :
    ofDigits (xs ++ ys) = ofDigits xs * 10 ^ ys.length + ofDigits ys := by
  simp only [ofDigits_eq]
  rw [Nat.ofDigitChars_append, Nat.ofDigitChars_eq_ofDigitChars_zero, Nat.mul_comm]

theorem ofDigits_zeros (n : Nat) : ofDigits (List.replicate n '0') = 0 := by
  rw [ofDigits_eq, Nat.ofDigitChars_replicate_zero, Nat.mul_zero]

theorem ofDigits_toDigits (n : Nat) : ofDigits (Nat.toDigits 10 n) = n := by
  rw [ofDigits_eq, Nat.ofDigitChars_ten_toDigits]

theorem digits_toDigits (n : Nat) : Digits (Nat.toDigits 10 n) :=
  ⟨Nat.toDigits_ne_nil, fun _ hc => Nat.isDigit_of_mem_toDigits (by decide) (by decide) hc⟩

theorem head?_toDigits {n : Nat} (hn : 0 < n) : (Nat.toDigits 10 n).head? ≠ some '0' := by
  induction n using Nat.strongRecOn with
  | ind n ih =>
    by_cases hlt : n < 10
    · rw [Nat.toDigits_of_lt_base hlt]
      have hdigit : ∀ m < 10, 0 < m → m.digitChar ≠ '0' := by decide
      intro h
      exact hdigit n hlt hn (Option.some.inj h)
    · have hge : 10 ≤ n := by omega
      rw [Nat.toDigits_of_base_le (by decide) hge, List.head?_append_of_ne_nil _ Nat.toDigits_ne_nil]
      exact ih (n / 10) (by omega) (by omega)

theorem whole_toDigits (n : Nat) : Whole (Nat.toDigits 10 n) := by
  obtain rfl | hn := Nat.eq_zero_or_pos n
  · exact .zero
  · exact .digits (digits_toDigits n) (head?_toDigits hn)

/-! ### Parts -/

namespace Parts

def fractionChars : Option (List Char) → List Char
  | some digits => '.' :: digits
  | none => []

/-- An exponent has its sign in any case. -/
def exponentChars : Option (Bool × List Char) → List Char
  | some (true, digits) => 'e' :: '-' :: digits
  | some (false, digits) => 'e' :: '+' :: digits
  | none => []

/-- The parts put together. -/
def chars (p : Parts) : List Char :=
  (if p.minus then ['-'] else []) ++
    (p.whole ++ (fractionChars p.fraction ++ exponentChars p.exponent))

/-- Digits where digits belong, and no zero before others. -/
structure IsProper (p : Parts) : Prop where
  whole : Whole p.whole
  fraction : ∀ digits, p.fraction = some digits → Digits digits
  exponent : ∀ below digits, p.exponent = some (below, digits) → Digits digits

variable {p : Parts}

theorem IsProper.fractionChars (h : p.IsProper) : Fraction (fractionChars p.fraction) := by
  cases hf : p.fraction with
  | none => exact .none
  | some digits => exact .point (h.fraction digits hf)

theorem IsProper.exponentChars (h : p.IsProper) : Exponent (exponentChars p.exponent) := by
  match he : p.exponent with
  | none => exact .none
  | some (true, digits) => exact .signed (.inl rfl) (.inr rfl) (h.exponent _ _ he)
  | some (false, digits) => exact .signed (.inl rfl) (.inl rfl) (h.exponent _ _ he)

theorem IsProper.numeral_chars (h : p.IsProper) : Numeral p.chars := by
  refine .mk ?_ h.whole h.fractionChars h.exponentChars
  cases p.minus
  · exact .inl rfl
  · exact .inr rfl

theorem ofLiteral_chars (h : p.IsProper) : ofLiteral p.chars = p := by
  obtain ⟨hends, hends', -⟩ := endsDigits_fraction_append h.fractionChars h.exponentChars closes_nil
  rw [List.append_nil] at hends hends'
  obtain ⟨hwhole, hrest⟩ := span_digits h.whole.isDigits.2 hends
  obtain ⟨first, tail, hfirst, hdigit⟩ := h.whole.head
  have hsign : ∀ rest, p.whole ++ (fractionChars p.fraction ++ exponentChars p.exponent) ≠
      '-' :: rest := by
    intro rest heq
    rw [hfirst] at heq
    cases heq
    exact absurd hdigit (by decide)
  unfold ofLiteral
  split
  next minus cs hcs =>
    obtain ⟨rfl, rfl⟩ : minus = p.minus ∧
        cs = p.whole ++ (fractionChars p.fraction ++ exponentChars p.exponent) := by
      split at hcs <;> cases hcs
      · next heq =>
        cases hm : p.minus
        · rw [chars, hm] at heq
          exact absurd heq (hsign _)
        · rw [chars, hm] at heq
          exact ⟨rfl, (List.cons.inj heq).2.symm⟩
      · next hne =>
        cases hm : p.minus
        · rw [chars, hm]
          exact ⟨rfl, rfl⟩
        · rw [chars, hm] at hne
          exact absurd rfl (hne _)
    have hspan (digits : List Char) (hdigits : p.fraction = some digits) :=
      span_digits (h.fraction digits hdigits).2 hends'
    obtain ⟨minus, whole, fraction, exponent⟩ := p
    simp only [hwhole, hrest]
    cases fraction with
    | none =>
      match exponent with
      | none | some (true, _) | some (false, _) => rfl
    | some digits =>
      simp only [fractionChars, List.cons_append, hspan digits rfl]
      match exponent with
      | none | some (true, _) | some (false, _) => rfl

end Parts

end ScanGate.Json
