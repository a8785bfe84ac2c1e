import ScanGate.Proofs.Decimal.Layout
import ScanGate.Proofs.Json.Doubles
import ScanGate.Proofs.Json.Fields
import ScanGate.Proofs.ProductId
import ScanGate.Proofs.Text.Utf8
import ScanGate.Report

/-! Product ids that are given as numbers. A number is written again, and the characters an id may
hold decide: the text of an integer has digits and a sign only, and nearly every other text has a
point or a plus sign. The exceptions are doubles below a hundred-thousandth with a single
digit, such as `1e-7`. -/
namespace ScanGate

/-! ### Texts of doubles -/

namespace ProductId

theorem isAllowed_of_isDigit {c : Char} (h : c.isDigit = true) : isAllowed c = true := by
  simp [isAllowed, Char.isAlphanum, h]

theorem isAllowed_of_mem_toDigits (n : ℕ) : ∀ c ∈ Nat.toDigits 10 n, isAllowed c = true :=
  fun c hc => isAllowed_of_isDigit ((Json.digits_toDigits n).2 c hc)

end ProductId

namespace Decimal

open ProductId (isAllowed isAllowed_of_mem_toDigits)

variable {d : Numeral} {digits : List Char} {lead : ℤ}

theorem point_mem_positional : '.' ∈ Layout.positional digits lead := by
  unfold Layout.positional
  split
  · simp
  · split <;> simp

/-- One digit needs no point, and a negative exponent no plus sign. -/
theorem of_isAllowed_scientific (hne : digits ≠ [])
    (h : ∀ c ∈ jsonLayout.scientific digits lead, isAllowed c = true) :
    digits.length = 1 ∧ lead < 0 := by
  constructor
  · match digits with
    | [c] => rfl
    | c :: c' :: rest =>
      have hpoint : '.' ∈ jsonLayout.scientific (c :: c' :: rest) lead := by
        simp [Layout.scientific]
      exact absurd (h '.' hpoint) (by decide)
  · by_contra hlead
    have hplus : '+' ∈ jsonLayout.scientific digits lead := by
      simp [Layout.scientific, hlead, jsonLayout]
    exact absurd (h '+' hplus) (by decide)

theorem write_of_small (hdigits : d.digits < 10) (hexponent : d.exponent < -5) :
    jsonLayout.write d =
      Nat.toDigits 10 d.digits ++ 'e' :: '-' :: Nat.toDigits 10 d.exponent.natAbs := by
  have hlead : d.exponent + (1 : ℕ) - 1 = d.exponent := by omega
  have hleast : jsonLayout.least = -5 := rfl
  simp only [Layout.write, Nat.toDigits_of_lt_base hdigits, List.length_singleton, hlead, hleast]
  rw [if_neg (by omega), Layout.scientific, if_pos (by omega)]
  rfl

/-- A text has a point or a plus sign unless it is one digit far behind the point. -/
theorem isAllowed_write_iff : (∀ c ∈ jsonLayout.write d, isAllowed c = true) ↔
    d.digits < 10 ∧ d.exponent < -5 := by
  constructor
  · intro h
    have hleast : jsonLayout.least = -5 := rfl
    have hgreatest : jsonLayout.greatest = 15 := rfl
    unfold Layout.write at h
    simp only [hleast, hgreatest] at h
    split at h
    · exact absurd (h '.' point_mem_positional) (by decide)
    · obtain ⟨hlength, hlead⟩ := of_isAllowed_scientific Nat.toDigits_ne_nil h
      have hdigits := (Nat.length_toDigits_le_iff (b := 10) (by decide) Nat.one_pos).mp hlength.le
      exact ⟨by omega, by omega⟩
  · rintro ⟨hdigits, hexponent⟩
    rw [write_of_small hdigits hexponent, List.forall_mem_append, List.forall_mem_cons,
      List.forall_mem_cons]
    exact ⟨isAllowed_of_mem_toDigits _, by decide, by decide, isAllowed_of_mem_toDigits _⟩

/-! ### Small decimals -/

open Binary64 (IsDouble scale)

variable {m e k : ℕ}

/-- A decimal in the interval of a double is at least half of it. -/
theorem half_le_of_contains (hm : 0 < m) (h : (Interval.around m e).Contains d) :
    m * 2 ^ e * d.ratio.2 ≤ 2 * (d.ratio.1 * 2 ^ scale) := by
  have hlow : (Interval.around m e).low * d.ratio.2 ≤
      d.ratio.1 * (Interval.around m e).denominator := by
    unfold Interval.Contains Interval.holds at h
    simp only at h
    split at h <;> simp only [Bool.and_eq_true, decide_eq_true_eq] at h
    · exact h.1
    · exact h.1.le
  have hgap := Binary64.gapBelow_le m e
  have hunit : 2 ^ e ≤ m * 2 ^ e := Nat.le_mul_of_pos_left _ hm
  rw [Binary64.around_eq] at hlow
  have hhalf : 2 * (m * 2 ^ e) ≤ 4 * m * 2 ^ e - Binary64.gapBelow m e := by
    rw [Nat.mul_assoc]
    omega
  have hmul := (Nat.mul_le_mul_right d.ratio.2 hhalf).trans hlow
  rw [pow_add] at hmul
  generalize 2 ^ scale = s at *
  linarith

/-- One digit at the place `k` behind the point is the shortest decimal of a small double only. -/
theorem lt_of_shortest (h : IsDouble m e) (hm : 0 < m) (hk : 0 < k) {c : ℕ} (hc : c < 10)
    (hshortest : shortest m e = ⟨c, -k⟩) : m * 2 ^ e * 10 ^ k < 20 * 2 ^ scale := by
  have hhalf := half_le_of_contains hm (contains_shortest h hm)
  obtain ⟨k, rfl⟩ := Nat.exists_eq_add_one_of_ne_zero hk.ne'
  have hratio : Numeral.ratio ⟨c, -(k + 1 : ℕ)⟩ = (c, 10 ^ (k + 1)) := rfl
  rw [hshortest, hratio] at hhalf
  have hlt := Nat.mul_lt_mul_of_pos_right hc (Nat.two_pow_pos scale)
  generalize 2 ^ scale = s at *
  simp only at hhalf
  linarith

/-- The least double is not smaller than that. -/
theorem place_lt (h : IsDouble m e) (hm : 0 < m) (hk : 0 < k) {c : ℕ} (hc : c < 10)
    (hshortest : shortest m e = ⟨c, -k⟩) : k < 10 ^ 4 := by
  have hlt := lt_of_shortest h hm hk hc hshortest
  have hone : 0 < m * 2 ^ e := Nat.mul_pos hm (Nat.two_pow_pos e)
  have hpow : 10 ^ k < 10 ^ (scale + 2) := by
    calc 10 ^ k ≤ m * 2 ^ e * 10 ^ k := Nat.le_mul_of_pos_left _ hone
      _ < 20 * 2 ^ scale := hlt
      _ ≤ 10 ^ 2 * 10 ^ scale := Nat.mul_le_mul (by decide) (Nat.pow_le_pow_left (by decide) _)
      _ = 10 ^ (scale + 2) := by rw [pow_add, Nat.mul_comm]
  have hlt := (Nat.pow_lt_pow_iff_right (by decide)).mp hpow
  have hscale : scale = 1074 := rfl
  omega

/-- A double of one or more has no such decimal. -/
theorem place_lt_of_le (h : IsDouble m e) (hlarge : 2 ^ scale ≤ m * 2 ^ e) (hk : 0 < k) {c : ℕ}
    (hc : c < 10) (hshortest : shortest m e = ⟨c, -k⟩) : k < 2 := by
  have hpos := Nat.two_pow_pos scale
  have hm : 0 < m := Nat.pos_of_ne_zero (by rintro rfl; omega)
  have hlt := lt_of_shortest h hm hk hc hshortest
  generalize 2 ^ scale = s at *
  by_contra hge
  have hmul := Nat.mul_le_mul hlarge
    (Nat.pow_le_pow_right (n := 10) (by decide) (Nat.le_of_not_lt hge))
  omega

end Decimal

/-! ### Ids of numbers -/

namespace ProductId

open Json (IsWord)

variable {body literal : String} {id : ProductId} {x : Json.Number} {i : ℤ} {cs : List Char}

theorem isValid_ofList (hne : cs ≠ []) (hlength : cs.length ≤ maxBytes)
    (h : ∀ c ∈ cs, isAllowed c = true) : IsValid ⟨String.ofList cs⟩ := by
  refine ⟨by simpa using hne, ?_, by simpa using h⟩
  have hsize := Text.utf8ByteSize_of_ascii (s := String.ofList cs)
    fun c hc => toNat_lt_of_isAllowed (h c (by simpa using hc))
  rw [hsize, String.toList_ofList]
  exact Nat.not_lt_of_le hlength

theorem isBlank_of_isNumeric {c : Char} (h : Json.IsNumeric c) : Text.isBlank c = false := by
  obtain hdigit | hmark := h
  · exact isBlank_of_isAllowed (isAllowed_of_isDigit hdigit)
  · simp only [List.mem_cons, List.not_mem_nil, or_false] at hmark
    obtain rfl | rfl | rfl | rfl | rfl := hmark <;> decide

/-- No blank is around a number, so the id is all of its text. -/
theorem ofString_numeral_iff (h : Json.Numeral cs) :
    ofString (String.ofList cs) = .ok id ↔ id.text = String.ofList cs ∧ id.IsValid := by
  rw [ofString_eq_ok_iff, Text.trim, String.toList_ofList,
    Text.trimChars_eq_self fun c hc => isBlank_of_isNumeric (h.isNumeric c hc)]

/-! ### Integers -/

theorem isAllowed_sign {b : Bool} : ∀ c ∈ (if b then ['-'] else []), isAllowed c = true := by
  intro c hc
  split at hc
  · obtain rfl := List.mem_singleton.mp hc
    decide
  · cases hc

theorem length_sign {b : Bool} : (if b then ['-'] else []).length ≤ 1 := by
  cases b <;> decide

theorem toList_toString (i : ℤ) : (toString i).toList =
    (if decide (i < 0) then ['-'] else []) ++ Nat.toDigits 10 i.natAbs := by
  rw [Json.toList_toString]
  simp [Json.Parts.chars, Json.Parts.ofNat, Json.Parts.fractionChars, Json.Parts.exponentChars]

theorem e_notMem_toString (i : ℤ) : 'e' ∉ (toString i).toList := by
  rw [toList_toString, List.mem_append, not_or]
  constructor
  · split <;> decide
  · exact fun h => absurd ((Json.digits_toDigits _).2 'e' h) (by decide)

/-- The text of an integer is an id. -/
theorem ofString_toString (h : IsWord i) : ofString (toString i) = .ok ⟨toString i⟩ := by
  have hdigits : (Nat.toDigits 10 i.natAbs).length ≤ 20 := by
    rw [Nat.length_toDigits_le_iff (by decide) (by decide)]
    have hlow := h.1
    have hhigh := h.2
    omega
  have hvalid : IsValid ⟨toString i⟩ := by
    rw [← String.ofList_toList (s := toString i), toList_toString]
    refine isValid_ofList (List.append_ne_nil_of_right_ne_nil _ Nat.toDigits_ne_nil) ?_ ?_
    · have hsign := length_sign (b := decide (i < 0))
      rw [List.length_append, maxBytes]
      omega
    · rw [List.forall_mem_append]
      exact ⟨isAllowed_sign, isAllowed_of_mem_toDigits _⟩
  exact hvalid.ofString_text

/-! ### Small doubles -/

/-- A double below a hundred-thousandth whose shortest decimal has a single digit, and its text. -/
inductive Small : Binary64 → String → Prop
  | mk {negative : Bool} {m e d k : ℕ} {text : String} (hshortest : Decimal.shortest m e = ⟨d, -k⟩)
      (hpos : 0 < d) (hdigit : d < 10) (hplace : 5 < k)
      (htext : text = (if negative then "-" else "") ++ toString d ++ "e-" ++ toString k) :
      Small (.finite negative m e) text

theorem ofString_empty : ofString "" ≠ .ok id := by
  rw [ne_eq, ofString_eq_ok_iff]
  rintro ⟨htext, hvalid⟩
  exact hvalid.nonempty (by rw [htext]; rfl)

theorem numeral_write {m e : ℕ} (h : Binary64.IsDouble m e) (negative : Bool) :
    Json.Numeral ((if negative then ['-'] else []) ++
      Decimal.jsonLayout.write (Decimal.shortest m e)) := by
  obtain ⟨p, hp, hminus, hchars, -⟩ := Json.shows_write (Json.digits_shortest h)
  have hp' : Json.Parts.IsProper { p with minus := negative } := ⟨hp.whole, hp.fraction, hp.exponent⟩
  have hnumeral := hp'.numeral_chars
  rw [← hchars]
  simpa [Json.Parts.chars, hminus] using hnumeral

theorem ofList_write_small {d k : ℕ} (hd : d < 10) (hk : 5 < k) (negative : Bool) :
    String.ofList ((if negative then ['-'] else []) ++ Decimal.jsonLayout.write ⟨d, -k⟩) =
      (if negative then "-" else "") ++ toString d ++ "e-" ++ toString k := by
  have hexponent : -(k : ℤ) < -5 := by omega
  rw [Decimal.write_of_small hd hexponent, ← String.toList_inj]
  cases negative <;> simp [Nat.toString_eq_repr, Nat.toList_repr]

theorem Small.e_mem {x : Binary64} {text : String} (h : Small x text) : 'e' ∈ text.toList := by
  obtain ⟨-, -, -, -, rfl⟩ := h
  simp

/-- The text of a small double is an id. -/
theorem Small.isValid {negative : Bool} {m e : ℕ} {text : String} (h : Binary64.IsDouble m e)
    (hsmall : Small (.finite negative m e) text) :
    text = String.ofList ((if negative then ['-'] else []) ++
      Decimal.jsonLayout.write (Decimal.shortest m e)) ∧ IsValid ⟨text⟩ := by
  obtain @⟨_, _, _, d, k, _, hshortest, hpos, hdigit, hplace, rfl⟩ := hsmall
  have hm : 0 < m := by
    refine Nat.pos_of_ne_zero fun hzero => ?_
    rw [hzero, Decimal.shortest_eq_zero, Decimal.Numeral.mk.injEq] at hshortest
    omega
  have hlast : (Nat.toDigits 10 k).length ≤ 4 := by
    rw [Nat.length_toDigits_le_iff (by decide) (by decide)]
    exact Decimal.place_lt h hm (by omega) hdigit hshortest
  have hexponent : -(k : ℤ) < -5 := by omega
  have hwrite := Decimal.write_of_small (d := ⟨d, -k⟩) hdigit hexponent
  rw [Int.natAbs_neg, Int.natAbs_natCast] at hwrite
  rw [hshortest, ← ofList_write_small hdigit hplace negative]
  refine ⟨rfl, isValid_ofList ?_ ?_ ?_⟩
  · rw [hwrite]
    simp
  · have hsign := length_sign (b := negative)
    rw [hwrite, Nat.toDigits_of_lt_base hdigit]
    simp only [List.length_append, List.length_cons, List.length_nil, maxBytes]
    omega
  · rw [List.forall_mem_append]
    exact ⟨isAllowed_sign, Decimal.isAllowed_write_iff.mpr ⟨hdigit, hexponent⟩⟩

/-- Of the doubles only small ones have a text that is an id. -/
theorem ofString_real_iff {x : Binary64} (hx : x.IsProper) :
    ofString (Json.Number.real x).text = .ok id ↔ Small x id.text := by
  match x, hx with
  | .nan, _ => exact iff_of_false ofString_empty nofun
  | .infinite _, _ => exact iff_of_false ofString_empty nofun
  | .finite negative m e, hx =>
    have hdouble := hx rfl
    have htext : (Json.Number.real (.finite negative m e)).text =
        String.ofList ((if negative then ['-'] else []) ++
          Decimal.jsonLayout.write (Decimal.shortest m e)) := by
      cases negative <;> rfl
    rw [htext, ofString_numeral_iff (numeral_write hdouble negative)]
    refine ⟨fun ⟨hid, hvalid⟩ => ?_, fun hsmall => hsmall.isValid hdouble⟩
    have hallowed := hvalid.allowed
    rw [hid, String.toList_ofList, List.forall_mem_append] at hallowed
    obtain ⟨hdigit, hplace⟩ := Decimal.isAllowed_write_iff.mp hallowed.2
    have hpos := Json.digits_shortest hdouble
    rw [hid]
    generalize hshortest : Decimal.shortest m e = s at *
    obtain ⟨d, exponent⟩ := s
    obtain ⟨k, rfl⟩ : ∃ k : ℕ, exponent = -k := ⟨exponent.natAbs, by simp only at hplace; omega⟩
    simp only [Decimal.Numeral.mk.injEq] at hdigit hplace hpos
    exact .mk hshortest (by omega) hdigit (by omega) (ofList_write_small hdigit (by omega) negative)

/-! ### Answers -/

/-- The body is the text of a document that has a number where the id belongs. -/
def Numbered (body literal : String) : Prop :=
  ∃ doc results, Json.Spells body doc ∧ doc.fields ["results"] = some [some results] ∧
    results.fields ["product_id"] = some [some (.number literal)]

theorem Numbered.numeral (h : Numbered body literal) : Json.Numeral literal.toList := by
  obtain ⟨doc, results, hspells, hresults, hid⟩ := h
  have hwell := Json.isWellFormed_of_fields hspells.isWellFormed hresults List.mem_cons_self
  exact Json.isLiteral_iff_numeral.mp (Json.isWellFormed_of_fields hwell hid List.mem_cons_self)

/-- A number that has a value is read by its text. -/
theorem Numbered.parse_eq_ok_iff (h : Numbered body literal) : parse body = .ok id ↔
    ∃ x, Json.numberOf literal = some x ∧ ofString x.text = .ok id := by
  obtain ⟨doc, results, hspells, hresults, hid⟩ := h
  have hfield : field? doc = Json.whole? answerDepth (.number literal) := by
    simp [field?, hresults, Json.required, hid]
  rw [parse, Json.read?_eq_some_iff.mpr hspells, Option.bind_some, hfield, Json.whole?]
  cases hvalue : Json.numberOf literal with
  | none => simp [Json.isWhole, hvalue]
  | some x => simp [Json.isWhole, hvalue, Json.depth, answerDepth, Json.depthLimit]

/-- A whole number is not read as a small double. -/
theorem integer?_eq_none_of_small {x : Binary64} {text : String}
    (hliteral : Json.Numeral literal.toList) (hx : Json.numberOf literal = some (.real x))
    (h : Small x text) : (Json.number literal).integer? = none := by
  rw [Json.integer?]
  refine if_neg fun hwhole => ?_
  obtain ⟨minus, n, hchars⟩ := Json.Parts.exists_ofNat_of_isWhole hliteral hwhole
  rw [Json.numberOf, hchars, Json.Parts.ofLiteral_ofNat] at hx
  obtain @⟨negative, m, e, d, k, _, hshortest, hpos, hdigit, hplace, -⟩ := h
  obtain rfl | hn := Nat.eq_zero_or_pos n
  · cases Json.eq_zero_of_value hx
    rw [Decimal.shortest_eq_zero, Decimal.Numeral.mk.injEq] at hshortest
    omega
  · have hlt := Decimal.place_lt_of_le (Json.isProper_value hx rfl) (Json.isLarge_value hn hx rfl)
      (by omega) hdigit hshortest
    omega

/-- What is taken over: integers of 64 bits that are written as such, and small doubles. -/
theorem Numbered.taken_iff (h : Numbered body literal) : parse body = .ok id ↔
    (∃ i : ℤ, IsWord i ∧ literal = toString i ∧ id.text = toString i) ∨
      ∃ x, Json.numberOf literal = some (.real x) ∧ Small x id.text := by
  rw [h.parse_eq_ok_iff]
  constructor
  · rintro ⟨x, hx, hid⟩
    cases hi : x.integer? with
    | some i =>
      obtain ⟨hliteral, hword⟩ := (Json.integer?_numberOf h.numeral).mp
        (Option.bind_eq_some_iff.mpr ⟨x, hx, hi⟩)
      rw [Json.text_of_integer? hx hi, ofString_toString hword] at hid
      cases hid
      exact .inl ⟨i, hword, hliteral, rfl⟩
    | none =>
      cases x with
      | real x => exact .inr ⟨x, hx, (ofString_real_iff (Json.isProper_value hx)).mp hid⟩
      | natural n => cases hi
      | negative n => cases hi
  · rintro (⟨i, hword, hliteral, hid⟩ | ⟨x, hx, hsmall⟩)
    · obtain ⟨x, hx, hi⟩ := Option.bind_eq_some_iff.mp
        ((Json.integer?_numberOf h.numeral).mpr ⟨hliteral, hword⟩)
      refine ⟨x, hx, ?_⟩
      rw [Json.text_of_integer? hx hi, ofString_toString hword, ← hid]
    · exact ⟨.real x, hx, (ofString_real_iff (Json.isProper_value hx)).mpr hsmall⟩

/-- A number is taken over exactly if it is an integer of 64 bits that is written as such. Of all
others small doubles are taken over, by a text with an exponent, and these are not whole.
So an integer that is taken over keeps its id for itself. -/
theorem parse_numbered (h : Numbered body literal) :
    (∀ id, parse body = .ok id ↔
      (∃ i : ℤ, IsWord i ∧ literal = toString i ∧ id.text = toString i) ∨
        ∃ x, Json.numberOf literal = some (.real x) ∧ Small x id.text) ∧
    (∀ x text, Json.numberOf literal = some (.real x) → Small x text →
      (Json.number literal).integer? = none) ∧
    ((Json.number literal).integer?.isSome = true → ∀ {body' literal' id},
      Numbered body' literal' → parse body = .ok id → parse body' = .ok id →
        literal' = literal) := by
  refine ⟨fun id => h.taken_iff, fun x text => integer?_eq_none_of_small h.numeral,
    fun hwhole body' literal' id h' hid hid' => ?_⟩
  obtain ⟨i, -, hliteral, htext⟩ | ⟨x, hx, hsmall⟩ := h.taken_iff.mp hid
  · obtain ⟨i', -, hliteral', htext'⟩ | ⟨x, -, hsmall⟩ := h'.taken_iff.mp hid'
    · rw [hliteral', ← htext', htext, hliteral]
    · have he := hsmall.e_mem
      rw [htext] at he
      exact absurd he (e_notMem_toString i)
  · rw [integer?_eq_none_of_small h.numeral hx hsmall] at hwhole
    cases hwhole

/-- An answer with a number for the id. -/
def sampleAnswer (literal : String) : Json :=
  .record [("results", .record [("product_id", .number literal)])]

theorem numbered_sampleAnswer (h : Json.Numeral literal.toList) :
    Numbered (sampleAnswer literal).compact literal := by
  refine ⟨_, _, Json.spells_compact _ ?_, rfl, rfl⟩
  exact ⟨⟨Json.isLiteral_iff_numeral.mpr h, trivial⟩, trivial⟩

theorem parse_numbered_sample : (sampleAnswer "4711").compact =
      "\x7b\"results\":\x7b\"product_id\":4711\x7d\x7d" ∧
    parse (sampleAnswer "4711").compact = .ok ⟨"4711"⟩ ∧
    ∀ literal, Numbered (sampleAnswer literal).compact literal →
      parse (sampleAnswer literal).compact = .ok ⟨"4711"⟩ → literal = "4711" := by
  have hnumbered : Numbered (sampleAnswer "4711").compact "4711" :=
    numbered_sampleAnswer (Json.isLiteral_iff_numeral.mp rfl)
  obtain ⟨hiff, -, hown⟩ := parse_numbered hnumbered
  have hparse := (hiff ⟨"4711"⟩).mpr (.inl ⟨4711, by decide, rfl, rfl⟩)
  exact ⟨rfl, hparse, fun literal h => hown rfl h hparse⟩

/-- Numbers that are not whole are taken over, and different ones by the same id. -/
theorem small_taken_over : (Json.number "1e-7").integer? = none ∧
    parse (sampleAnswer "1e-7").compact = .ok ⟨"1e-7"⟩ ∧
    parse (sampleAnswer "3e-324").compact = .ok ⟨"5e-324"⟩ ∧
    parse (sampleAnswer "5e-324").compact = .ok ⟨"5e-324"⟩ := by
  refine ⟨by decide, ?_, ?_, ?_⟩
  all_goals decide +kernel

end ProductId

end ScanGate
