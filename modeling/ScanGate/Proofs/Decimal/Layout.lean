import ScanGate.Proofs.Decimal.Shortest
import ScanGate.Proofs.Json.Numbers
import ScanGate.Proofs.Json.RoundTrip

/-! A decimal that is laid out keeps its value, wherever the point is put. So the text of a double
is a numeral whose exact value lies in the interval of the double, and the double nearest to
it is the one that was written. -/
namespace ScanGate.Json

open Decimal (Layout jsonLayout shortest Interval)

/-- The text is put together from proper parts, without a sign, and has the value. -/
def Shows (d : Decimal.Numeral) (cs : List Char) : Prop :=
  ∃ p : Parts, p.IsProper ∧ p.minus = false ∧ p.chars = cs ∧ p.decimal.value = d.value

variable {d : Decimal.Numeral} {n : Nat}

/-- Zeros at the end of the digits are made up for by the exponent. -/
theorem value_eq_of_zeros {x : Nat} {e : Int} (zeros : Nat) (hx : x = d.digits * 10 ^ zeros)
    (he : e + zeros = d.exponent) : Decimal.Numeral.value ⟨x, e⟩ = d.value := by
  rw [Decimal.Numeral.value, Decimal.Numeral.value, hx, ← he, zpow_add₀ (by decide), zpow_natCast]
  push_cast
  ring

/-! ### Positional -/

/-- Below one: zeros come first. -/
theorem shows_below (h : d.exponent + (Nat.toDigits 10 d.digits).length - 1 = .negSucc n) :
    Shows d (['0', '.'] ++ List.replicate n '0' ++ Nat.toDigits 10 d.digits) := by
  have hdigits : Digits (List.replicate n '0' ++ Nat.toDigits 10 d.digits) := by
    refine ⟨List.append_ne_nil_of_right_ne_nil _ Nat.toDigits_ne_nil, ?_⟩
    rw [List.forall_mem_append]
    refine ⟨fun c hc => ?_, (digits_toDigits _).2⟩
    rw [List.eq_of_mem_replicate hc]
    decide
  refine ⟨⟨false, ['0'], some (List.replicate n '0' ++ Nat.toDigits 10 d.digits), none⟩,
    ⟨.zero, ?_, nofun⟩, rfl, ?_, value_eq_of_zeros 0 ?_ ?_⟩
  · rintro _ ⟨⟩
    exact hdigits
  · simp [Parts.chars, Parts.fractionChars, Parts.exponentChars]
  · simp only [Option.getD_some, ofDigits_append, ofDigits_zeros, ofDigits_toDigits]
    simp [ofDigits, digit]
  · simp only [Parts.power, Option.getD_some, List.length_append, List.length_replicate]
    omega

theorem whole_append_zeros {m k : Nat} (h : 0 < m ∨ k = 0) :
    Whole (Nat.toDigits 10 m ++ List.replicate k '0') := by
  obtain hm | rfl := h
  · refine .digits ⟨List.append_ne_nil_of_left_ne_nil Nat.toDigits_ne_nil _, ?_⟩ ?_
    · rw [List.forall_mem_append]
      refine ⟨(digits_toDigits m).2, fun c hc => ?_⟩
      rw [List.eq_of_mem_replicate hc]
      decide
    · rw [List.head?_append_of_ne_nil _ Nat.toDigits_ne_nil]
      exact head?_toDigits hm
  · rw [List.replicate_zero, List.append_nil]
    exact whole_toDigits m

/-- No digit is behind the point: zeros fill the places before it. -/
theorem shows_whole (hd : 0 < d.digits ∨ n = 0)
    (h : d.exponent + (Nat.toDigits 10 d.digits).length - 1 = n)
    (hn : (Nat.toDigits 10 d.digits).length ≤ n + 1) :
    Shows d (Nat.toDigits 10 d.digits ++
      List.replicate (n + 1 - (Nat.toDigits 10 d.digits).length) '0' ++ ['.', '0']) := by
  have hlength : 0 < (Nat.toDigits 10 d.digits).length := Nat.length_toDigits_pos
  refine ⟨⟨false, Nat.toDigits 10 d.digits ++
    List.replicate (n + 1 - (Nat.toDigits 10 d.digits).length) '0', some ['0'], none⟩,
    ⟨whole_append_zeros (hd.imp_right fun h => by omega), ?_, nofun⟩, rfl, ?_,
    value_eq_of_zeros (n + 2 - (Nat.toDigits 10 d.digits).length) ?_ ?_⟩
  · rintro _ ⟨⟩
    exact digits_toDigits 0
  · simp [Parts.chars, Parts.fractionChars, Parts.exponentChars]
  · have hzero : ofDigits ['0'] = 0 := rfl
    have hplaces : n + 2 - (Nat.toDigits 10 d.digits).length =
        n + 1 - (Nat.toDigits 10 d.digits).length + 1 := by omega
    simp only [Option.getD_some, ofDigits_append, ofDigits_zeros, ofDigits_toDigits, hzero,
      List.length_replicate, List.length_singleton, hplaces, pow_succ]
    ring
  · simp only [Parts.power, Option.getD_some, List.length_singleton]
    omega

/-- The point is between the digits. -/
theorem shows_point (hd : 0 < d.digits)
    (h : d.exponent + (Nat.toDigits 10 d.digits).length - 1 = n)
    (hn : n + 1 < (Nat.toDigits 10 d.digits).length) :
    Shows d ((Nat.toDigits 10 d.digits).take (n + 1) ++ ['.'] ++
      (Nat.toDigits 10 d.digits).drop (n + 1)) := by
  obtain ⟨hne, hdigits⟩ := digits_toDigits d.digits
  have hhead := head?_toDigits hd
  have hall := List.take_append_drop (n + 1) (Nat.toDigits 10 d.digits)
  refine ⟨⟨false, (Nat.toDigits 10 d.digits).take (n + 1),
    some ((Nat.toDigits 10 d.digits).drop (n + 1)), none⟩,
    ⟨.digits ⟨?_, fun c hc => hdigits c (List.mem_of_mem_take hc)⟩ ?_, ?_, nofun⟩, rfl, ?_,
    value_eq_of_zeros 0 ?_ ?_⟩
  · exact fun hnil => hne (List.take_eq_nil_iff.mp hnil |>.resolve_left (by omega))
  · rw [List.head?_take, if_neg (by omega)]
    exact hhead
  · rintro _ ⟨⟩
    refine ⟨fun hnil => ?_, fun c hc => hdigits c (List.mem_of_mem_drop hc)⟩
    have hle := List.drop_eq_nil_iff.mp hnil
    omega
  · simp [Parts.chars, Parts.fractionChars, Parts.exponentChars]
  · rw [Option.getD_some, hall, ofDigits_toDigits, pow_zero, Nat.mul_one]
  · simp only [Parts.power, Option.getD_some, List.length_drop]
    omega

/-! ### With an exponent -/

/-- An exponent as it is written. -/
theorem power_toDigits (lead : Int) :
    Parts.power (some (decide (lead < 0), Nat.toDigits 10 lead.natAbs)) = lead := by
  by_cases h : lead < 0
  · simp only [h, decide_true, Parts.power, ofDigits_toDigits]
    omega
  · simp only [h, decide_false, Parts.power, ofDigits_toDigits]
    omega

theorem exponentChars_toDigits (lead : Int) :
    Parts.exponentChars (some (decide (lead < 0), Nat.toDigits 10 lead.natAbs)) =
      'e' :: if lead < 0 then '-' :: Nat.toDigits 10 lead.natAbs
        else "+".toList ++ Nat.toDigits 10 lead.natAbs := by
  by_cases h : lead < 0
  · simp only [h, decide_true, if_true, Parts.exponentChars]
  · simp only [h, decide_false, if_false, Parts.exponentChars]
    rfl

theorem whole_singleton {c : Char} (h : c.isDigit = true) : Whole [c] := by
  by_cases hc : c = '0'
  · subst hc
    exact .zero
  · exact .digits ⟨by simp, by simpa using h⟩ (by simpa using hc)

/-- One digit before the point, and the exponent of that digit. -/
theorem shows_scientific (d : Decimal.Numeral) :
    Shows d (jsonLayout.scientific (Nat.toDigits 10 d.digits)
      (d.exponent + (Nat.toDigits 10 d.digits).length - 1)) := by
  obtain ⟨hne, hdigits⟩ := digits_toDigits d.digits
  have hvalue := ofDigits_toDigits d.digits
  generalize Nat.toDigits 10 d.digits = ds at *
  match ds with
  | [] => exact absurd rfl hne
  | [c] =>
    refine ⟨⟨false, [c], none, some (decide (d.exponent + [c].length - 1 < 0),
      Nat.toDigits 10 (d.exponent + [c].length - 1).natAbs)⟩,
      ⟨whole_singleton (hdigits c List.mem_cons_self), nofun, ?_⟩, rfl, ?_,
      value_eq_of_zeros 0 ?_ ?_⟩
    · rintro _ _ ⟨⟩
      exact digits_toDigits _
    · rw [Parts.chars, exponentChars_toDigits]
      rfl
    · rw [Option.getD_none, List.append_nil, hvalue, pow_zero, Nat.mul_one]
    · simp only [power_toDigits, Option.getD_none, List.length_nil, List.length_singleton]
      omega
  | c :: c' :: rest =>
    refine ⟨⟨false, [c], some (c' :: rest),
      some (decide (d.exponent + (c :: c' :: rest).length - 1 < 0),
        Nat.toDigits 10 (d.exponent + (c :: c' :: rest).length - 1).natAbs)⟩,
      ⟨whole_singleton (hdigits c List.mem_cons_self), ?_, ?_⟩, rfl, ?_,
      value_eq_of_zeros 0 ?_ ?_⟩
    · rintro _ ⟨⟩
      exact ⟨by simp, fun x hx => hdigits x (List.mem_cons_of_mem c hx)⟩
    · rintro _ _ ⟨⟩
      exact digits_toDigits _
    · rw [Parts.chars, exponentChars_toDigits]
      simp [Layout.scientific, Parts.fractionChars, jsonLayout]
    · rw [Option.getD_some, List.singleton_append, hvalue, pow_zero, Nat.mul_one]
    · simp only [power_toDigits, Option.getD_some, List.length_cons]
      omega

theorem shows_write (hd : 0 < d.digits ∨ d = ⟨0, 0⟩) : Shows d (jsonLayout.write d) := by
  have hzero {n : Nat} (hn : d.exponent + (Nat.toDigits 10 d.digits).length - 1 = n)
      (hd : d = ⟨0, 0⟩) : n = 0 ∧ (Nat.toDigits 10 d.digits).length = 1 := by
    subst hd
    rw [Nat.toDigits_zero] at hn ⊢
    exact ⟨by simp at hn; omega, rfl⟩
  unfold Layout.write Layout.positional
  simp only
  split
  · split
    · next n hn => exact shows_below hn
    · next n hn =>
      split
      · next hle => exact shows_whole (hd.imp_right fun h => (hzero hn h).1) hn hle
      · next hlt =>
        refine shows_point (hd.resolve_right fun h => ?_) hn (Nat.lt_of_not_le hlt)
        obtain ⟨rfl, hlength⟩ := hzero hn h
        exact hlt hlength.le
  · exact shows_scientific d

/-! ### Doubles -/

open Binary64 (IsDouble)

variable {m e : Nat}

theorem digits_shortest (h : IsDouble m e) : 0 < (shortest m e).digits ∨ shortest m e = ⟨0, 0⟩ := by
  obtain rfl | hm := Nat.eq_zero_or_pos m
  · exact .inr Decimal.shortest_eq_zero
  · exact .inl (Decimal.digits_pos_of_contains hm (Decimal.contains_shortest h hm))

/-- The double is nearest to every decimal of the value of its shortest one. -/
theorem ofRatio_of_value (negative : Bool) (h : IsDouble m e)
    (hvalue : d.value = (shortest m e).value) :
    Binary64.ofRatio negative d.ratio.1 d.ratio.2 = .finite negative m e := by
  obtain rfl | hm := Nat.eq_zero_or_pos m
  · obtain rfl : e = 0 := h.normal.resolve_right (by decide)
    have hcross := Decimal.Numeral.ratio_cross hvalue
    have hzero : d.ratio.1 = 0 := by
      rw [Decimal.shortest_eq_zero] at hcross
      simpa [Decimal.Numeral.ratio] using hcross
    rw [hzero, Binary64.ofRatio_zero]
  · exact Binary64.ofRatio_of_holds negative h hm d.ratio_pos
      ((Decimal.contains_shortest h hm).congr hvalue.symm)

/-- A double is written by proper parts, and is nearest to their value. -/
theorem exists_parts (negative : Bool) (h : IsDouble m e) : ∃ p : Parts, p.IsProper ∧
    real (.finite negative m e) = number (String.ofList p.chars) ∧
    Binary64.ofRatio p.minus p.decimal.ratio.1 p.decimal.ratio.2 = .finite negative m e := by
  obtain ⟨p, hp, hminus, hchars, hvalue⟩ := shows_write (digits_shortest h)
  refine ⟨{ p with minus := negative }, ⟨hp.whole, hp.fraction, hp.exponent⟩, ?_,
    ofRatio_of_value negative h hvalue⟩
  rw [real, Decimal.ofBinary64, ← hchars]
  cases negative with
  | false => simp [Parts.chars, hminus]
  | true => simp [Parts.chars, hminus]

theorem isWellFormed_real {x : Binary64} (h : x.IsFiniteDouble) : (real x).IsWellFormed := by
  match x, h with
  | .finite negative m e, h =>
    obtain ⟨p, hp, hreal, -⟩ := exists_parts negative h
    rw [hreal, IsWellFormed, String.toList_ofList, isLiteral_iff_numeral]
    exact hp.numeral_chars

/-- A finite double reads back from its text. -/
theorem nearest?_real {x : Binary64} (h : x.IsFiniteDouble) : (real x).nearest? = some x := by
  match x, h with
  | .finite negative m e, h =>
    obtain ⟨p, hp, hreal, hround⟩ := exists_parts negative h
    simp only [hreal, nearest?, String.toList_ofList, Parts.ofLiteral_chars hp, hround]

end ScanGate.Json
