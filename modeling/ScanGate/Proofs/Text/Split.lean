import ScanGate.Text.Split

/-! The parts of a text between separators. A text without a separator is one part; words
without one stay at the start of the first part; and where a separator stands, the parts
before it and the parts after it have nothing to do with each other. -/
namespace ScanGate.Text

variable {p : Char → Bool} {c : Char} {cs xs ys part : List Char} {parts : List (List Char)}

theorem exists_splitAt_eq (p : Char → Bool) (cs : List Char) :
    ∃ part parts, splitAt p cs = part :: parts :=
  List.exists_cons_of_ne_nil (splitAt_ne_nil p cs)

theorem splitAt_cons_of_not (hc : p c = false) (h : splitAt p cs = part :: parts) :
    splitAt p (c :: cs) = (c :: part) :: parts := by
  simp [splitAt, hc, h]

theorem splitAt_append_cons (hc : p c = true) (xs ys : List Char) :
    splitAt p (xs ++ c :: ys) = splitAt p xs ++ splitAt p ys := by
  induction xs with
  | nil => simp [splitAt, hc]
  | cons x xs ih =>
    by_cases hx : p x = true
    · simp [splitAt, hx, ih]
    · have hx : p x = false := by simpa using hx
      obtain ⟨part, parts, hparts⟩ := exists_splitAt_eq p xs
      rw [hparts] at ih
      rw [splitAt_cons_of_not hx hparts, List.cons_append, splitAt_cons_of_not hx ih]
      rfl

theorem splitAt_append (hxs : ∀ c ∈ xs, p c = false) (hys : splitAt p ys = part :: parts) :
    splitAt p (xs ++ ys) = (xs ++ part) :: parts := by
  induction xs with
  | nil => exact hys
  | cons x xs ih =>
    obtain ⟨hx, hxs⟩ := List.forall_mem_cons.mp hxs
    exact splitAt_cons_of_not hx (ih hxs)

theorem splitAt_of_forall (h : ∀ c ∈ cs, p c = false) : splitAt p cs = [cs] := by
  have hparts : splitAt p (cs ++ []) = [cs ++ []] := splitAt_append h rfl
  simpa using hparts

/-- A text with a separator has another part after the first. -/
theorem tail_splitAt_eq_nil_iff : (splitAt p cs).tail = [] ↔ ∀ c ∈ cs, p c = false := by
  constructor
  · intro h c hmem
    rw [Bool.eq_false_iff]
    intro hc
    obtain ⟨xs, ys, rfl⟩ := List.append_of_mem hmem
    obtain ⟨part, parts, hparts⟩ := exists_splitAt_eq p xs
    rw [splitAt_append_cons hc, hparts] at h
    have hys := splitAt_ne_nil p ys
    simp [hys] at h
  · intro h
    rw [splitAt_of_forall h]
    rfl

theorem dropWhile_eq_self (h : ∀ c ∈ cs.head?, p c = false) : cs.dropWhile p = cs := by
  cases cs with
  | nil => rfl
  | cons c cs => rw [List.dropWhile_cons_of_neg (by simpa using h c rfl)]

/-- Texts that each end with a separator; nothing stands after the last one. -/
theorem splitAt_flatMap_ended (hc : p c = true) (texts : List (List Char)) :
    splitAt p (texts.flatMap (· ++ [c])) = texts.flatMap (splitAt p) ++ [[]] := by
  induction texts with
  | nil => rfl
  | cons text texts ih =>
    have hfirst : (text :: texts).flatMap (· ++ [c]) = text ++ c :: texts.flatMap (· ++ [c]) := by
      simp
    rw [hfirst, splitAt_append_cons hc, ih]
    simp

end ScanGate.Text
