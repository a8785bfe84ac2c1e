import Mathlib.Data.List.Basic
import ScanGate.Proofs.Json.Grammar

/-! The reader of numbers takes the numerals of the grammar. A number ends where its digits
end, so a numeral reads the same with anything behind it that cannot be part of a number;
and what is read is a numeral. -/
namespace ScanGate.Json

/-- A literal of the grammar: the reader of numbers takes all of it. -/
def IsLiteral (cs : List Char) : Prop := readNumber cs = some (cs, [])

/-- A text that no number goes on into. -/
def Closes (rest : List Char) : Prop :=
  ∀ c ∈ rest.head?, c.isDigit = false ∧ c ≠ '.' ∧ c ≠ 'e' ∧ c ≠ 'E'

variable {cs rest left xs : List Char}

@[simp] theorem closes_nil : Closes [] := by simp [Closes]

/-! ### Digits -/

/-- A text that does not begin with a digit. -/
def EndsDigits (rest : List Char) : Prop := ∀ c ∈ rest.head?, c.isDigit = false

theorem Closes.endsDigits (h : Closes rest) : EndsDigits rest := fun c hc => (h c hc).1

theorem span_digits (h : ∀ c ∈ cs, c.isDigit = true) (hr : EndsDigits rest) :
    (cs ++ rest).takeWhile Char.isDigit = cs ∧ (cs ++ rest).dropWhile Char.isDigit = rest := by
  have hrest : rest.takeWhile Char.isDigit = [] ∧ rest.dropWhile Char.isDigit = rest := by
    cases rest with
    | nil => exact ⟨rfl, rfl⟩
    | cons c rest => simp [hr c rfl]
  rw [List.takeWhile_append_of_pos h, List.dropWhile_append_of_pos h, hrest.1, hrest.2,
    List.append_nil]
  exact ⟨rfl, rfl⟩

theorem readDigits_append (h : Digits cs) (hr : EndsDigits rest) :
    readDigits (cs ++ rest) = some (cs, rest) := by
  obtain ⟨hne, hd⟩ := h
  obtain ⟨ht, hdrop⟩ := span_digits hd hr
  unfold readDigits
  rw [ht, hdrop]
  cases cs with
  | nil => exact absurd rfl hne
  | cons c cs => rfl

theorem digits_of_readDigits (h : readDigits cs = some (xs, left)) :
    Digits xs ∧ cs = xs ++ left := by
  unfold readDigits at h
  split at h
  · cases h
  · next hne =>
    cases h
    refine ⟨⟨hne, fun c hc => ?_⟩, List.takeWhile_append_dropWhile.symm⟩
    exact List.all_eq_true.mp List.all_takeWhile c hc

theorem Digits.head (h : Digits cs) : ∃ c tail, cs = c :: tail ∧ c.isDigit = true := by
  cases cs with
  | nil => exact absurd rfl h.1
  | cons c tail => exact ⟨c, tail, rfl, h.2 c List.mem_cons_self⟩

/-! ### The parts of a number -/

theorem Whole.isDigits (h : Whole cs) : Digits cs := by
  cases h with
  | zero => exact ⟨List.cons_ne_nil _ _, List.forall_mem_singleton.mpr rfl⟩
  | digits h => exact h

theorem Whole.head (h : Whole cs) : ∃ c tail, cs = c :: tail ∧ c.isDigit = true :=
  h.isDigits.head

theorem Whole.readWhole (h : Whole cs) (hr : EndsDigits rest) :
    readWhole (cs ++ rest) = some (cs, rest) := by
  cases h with
  | zero =>
    cases rest with
    | nil => rfl
    | cons c rest => simp [Json.readWhole, hr c rfl]
  | digits h hz =>
    have hd := readDigits_append h hr
    obtain ⟨c, tail, rfl, -⟩ := h.head
    rw [List.cons_append] at hd ⊢
    rw [Json.readWhole, hd]
    rintro tail' he
    simp_all

theorem whole_of_readWhole (h : readWhole cs = some (xs, left)) : Whole xs ∧ cs = xs ++ left := by
  unfold readWhole at h
  split at h
  · next rest =>
    split at h
    · split at h
      · cases h
      · cases h
        exact ⟨.zero, rfl⟩
    · cases h
      exact ⟨.zero, rfl⟩
  · next hz =>
    obtain ⟨hd, rfl⟩ := digits_of_readDigits h
    refine ⟨.digits hd fun h0 => ?_, rfl⟩
    obtain ⟨c, tail, rfl, -⟩ := hd.head
    cases h0
    exact hz (tail ++ left) rfl

theorem Fraction.readFraction (h : Fraction cs) (hd : EndsDigits rest)
    (hp : ∀ c ∈ rest.head?, c ≠ '.') : readFraction (cs ++ rest) = some (cs, rest) := by
  cases h with
  | none =>
    cases rest with
    | nil => rfl
    | cons c rest =>
      have hne : c ≠ '.' := hp c rfl
      rw [List.nil_append, Json.readFraction]
      rintro tail he
      simp_all
  | point h => simp [Json.readFraction, readDigits_append h hd]

theorem fraction_of_readFraction (h : readFraction cs = some (xs, left)) :
    Fraction xs ∧ cs = xs ++ left := by
  unfold readFraction at h
  split at h
  · simp only [Option.bind_eq_bind, Option.bind_eq_some_iff, Prod.exists] at h
    obtain ⟨digits, rest, hd, he⟩ := h
    cases he
    obtain ⟨hdigits, rfl⟩ := digits_of_readDigits hd
    exact ⟨.point hdigits, rfl⟩
  · cases h
    exact ⟨.none, rfl⟩

theorem Exponent.readExponent (h : Exponent cs) (hr : Closes rest) :
    readExponent (cs ++ rest) = some (cs, rest) := by
  cases h with
  | none =>
    cases rest with
    | nil => rfl
    | cons c rest =>
      obtain ⟨-, -, he, hE⟩ := hr c rfl
      simp [Json.readExponent, he, hE]
  | plain he h =>
    have hd := readDigits_append h hr.endsDigits
    obtain ⟨c, tail, rfl, hc⟩ := h.head
    have hs : ¬ (c = '+' ∨ c = '-') := by
      rintro (rfl | rfl) <;> exact absurd hc (by decide)
    rw [List.cons_append] at hd
    simp [Json.readExponent, he, hs, hd]
  | signed he hs h =>
    simp [Json.readExponent, he, hs, readDigits_append h hr.endsDigits]

theorem exponent_of_readExponent (h : readExponent cs = some (xs, left)) :
    Exponent xs ∧ cs = xs ++ left := by
  unfold readExponent at h
  split at h
  · next c rest =>
    split at h
    · next hc =>
      split at h
      · next s rest =>
        split at h
        · next hs =>
          simp only [Option.bind_eq_bind, Option.bind_eq_some_iff, Prod.exists] at h
          obtain ⟨digits, left', hd, he⟩ := h
          cases he
          obtain ⟨hdigits, rfl⟩ := digits_of_readDigits hd
          exact ⟨.signed hc hs hdigits, rfl⟩
        · simp only [Option.bind_eq_bind, Option.bind_eq_some_iff, Prod.exists] at h
          obtain ⟨digits, left', hd, he⟩ := h
          cases he
          obtain ⟨hdigits, he⟩ := digits_of_readDigits hd
          exact ⟨.plain hc hdigits, by rw [he, List.cons_append]⟩
      · cases h
    · cases h
      exact ⟨.none, rfl⟩
  · cases h
    exact ⟨.none, rfl⟩

/-- What comes after the digits before the point goes on without a digit. -/
theorem endsDigits_fraction_append {fraction exponent : List Char} (hf : Fraction fraction)
    (he : Exponent exponent) (hr : Closes rest) :
    EndsDigits (fraction ++ (exponent ++ rest)) ∧ EndsDigits (exponent ++ rest) ∧
      ∀ c ∈ (exponent ++ rest).head?, c ≠ '.' := by
  have hmark : ∀ c, c = 'e' ∨ c = 'E' → c.isDigit = false ∧ c ≠ '.' := by
    rintro c (rfl | rfl) <;> decide
  have hexponent : EndsDigits (exponent ++ rest) ∧ ∀ c ∈ (exponent ++ rest).head?, c ≠ '.' := by
    cases he with
    | none => exact ⟨hr.endsDigits, fun c hc => (hr c hc).2.1⟩
    | plain he =>
      constructor <;> rintro c ⟨⟩
      exacts [(hmark _ he).1, (hmark _ he).2]
    | signed he =>
      constructor <;> rintro c ⟨⟩
      exacts [(hmark _ he).1, (hmark _ he).2]
  refine ⟨?_, hexponent⟩
  cases hf with
  | none => exact hexponent.1
  | point =>
    rintro c ⟨⟩
    decide

/-! ### Numbers -/

/-- The first character tells a number from every other value. -/
theorem Numeral.head (h : Numeral cs) :
    ∃ c tail, cs = c :: tail ∧ (c = '-' ∨ c.isDigit = true) := by
  obtain ⟨rfl | rfl, hw, -, -⟩ := h
  · obtain ⟨c, tail, rfl, hc⟩ := hw.head
    exact ⟨c, _, rfl, .inr hc⟩
  · exact ⟨'-', _, rfl, .inl rfl⟩

theorem Numeral.readNumber_append (h : Numeral cs) (hr : Closes rest) :
    readNumber (cs ++ rest) = some (cs, rest) := by
  obtain @⟨sign, whole, fraction, exponent, hs, hw, hf, he⟩ := h
  obtain ⟨hfraction, hexponent, hpoint⟩ := endsDigits_fraction_append hf he hr
  have hsign : readSign (sign ++ (whole ++ (fraction ++ (exponent ++ rest)))) =
      (sign, whole ++ (fraction ++ (exponent ++ rest))) := by
    obtain rfl | rfl := hs
    · obtain ⟨c, tail, rfl, hc⟩ := hw.head
      have hne : c ≠ '-' := by rintro rfl; exact absurd hc (by decide)
      rw [List.nil_append, List.cons_append, readSign]
      rintro tail' he
      simp_all
    · rfl
  simp only [List.append_assoc, readNumber, hsign, hw.readWhole hfraction,
    hf.readFraction hexponent hpoint, he.readExponent hr, Option.bind_eq_bind, Option.bind_some]
  rfl

theorem numeral_of_readNumber (h : readNumber cs = some (xs, left)) :
    Numeral xs ∧ cs = xs ++ left := by
  simp only [readNumber, Option.bind_eq_bind, Option.bind_eq_some_iff, Prod.exists] at h
  obtain ⟨whole, cs₁, hw, fraction, cs₂, hf, exponent, cs₃, he, h⟩ := h
  cases h
  obtain ⟨hwhole, hcs⟩ := whole_of_readWhole hw
  obtain ⟨hfraction, rfl⟩ := fraction_of_readFraction hf
  obtain ⟨hexponent, rfl⟩ := exponent_of_readExponent he
  have hs : ((readSign cs).1 = [] ∨ (readSign cs).1 = ['-']) ∧
      cs = (readSign cs).1 ++ (readSign cs).2 := by
    unfold readSign
    split
    · exact ⟨.inr rfl, rfl⟩
    · exact ⟨.inl rfl, rfl⟩
  simp only [List.append_assoc]
  refine ⟨.mk hs.1 hwhole hfraction hexponent, ?_⟩
  rw [← hcs]
  exact hs.2

theorem isLiteral_iff_numeral : IsLiteral cs ↔ Numeral cs := by
  constructor
  · exact fun h => (numeral_of_readNumber h).1
  · intro h
    have hread := h.readNumber_append closes_nil
    rwa [List.append_nil] at hread

/-! ### Characters -/

/-- The characters of numbers. -/
def IsNumeric (c : Char) : Prop := c.isDigit = true ∨ c ∈ ['.', 'e', 'E', '+', '-']

theorem Digits.isNumeric (h : Digits cs) : ∀ c ∈ cs, IsNumeric c := fun c hc => .inl (h.2 c hc)

theorem Fraction.isNumeric (h : Fraction cs) : ∀ c ∈ cs, IsNumeric c := by
  cases h with
  | none => exact nofun
  | point h => exact List.forall_mem_cons.mpr ⟨.inr (by decide), h.isNumeric⟩

theorem Exponent.isNumeric (h : Exponent cs) : ∀ c ∈ cs, IsNumeric c := by
  have hmark {c : Char} (hc : c = 'e' ∨ c = 'E') : IsNumeric c := by
    obtain rfl | rfl := hc <;> exact .inr (by decide)
  have hsign {c : Char} (hc : c = '+' ∨ c = '-') : IsNumeric c := by
    obtain rfl | rfl := hc <;> exact .inr (by decide)
  cases h with
  | none => exact nofun
  | plain he h => exact List.forall_mem_cons.mpr ⟨hmark he, h.isNumeric⟩
  | signed he hs h =>
    exact List.forall_mem_cons.mpr ⟨hmark he, List.forall_mem_cons.mpr ⟨hsign hs, h.isNumeric⟩⟩

theorem Numeral.isNumeric (h : Numeral cs) : ∀ c ∈ cs, IsNumeric c := by
  obtain ⟨hs, hw, hf, he⟩ := h
  rw [List.forall_mem_append, List.forall_mem_append, List.forall_mem_append]
  refine ⟨?_, hw.isDigits.isNumeric, hf.isNumeric, he.isNumeric⟩
  obtain rfl | rfl := hs
  · exact nofun
  · exact List.forall_mem_singleton.mpr (.inr (by decide))

end ScanGate.Json
