import ScanGate.Proofs.Text.Split
import ScanGate.Text.Blank

/-! Trimmed texts. Only blanks are taken away, from both ends, and the rest neither starts nor ends
with one; there is just one such text. -/
namespace ScanGate.Text

variable {cs ts xs ys front back : List Char}

/-- The second text is the first one without the blanks around it. -/
structure Trims (cs ts : List Char) : Prop where
  around : ∃ front back, cs = front ++ ts ++ back ∧ (∀ c ∈ front, isBlank c = true) ∧
    ∀ c ∈ back, isBlank c = true
  first : ∀ c ∈ ts.head?, isBlank c = false
  last : ∀ c ∈ ts.getLast?, isBlank c = false

theorem isBlank_head?_trimLeft (cs : List Char) : ∀ c ∈ (trimLeft cs).head?, isBlank c = false := by
  intro c hc
  have hnot := List.head?_dropWhile_not isBlank cs
  rw [trimLeft] at hc
  rwa [hc] at hnot

theorem trimLeft_eq_self (h : ∀ c ∈ cs.head?, isBlank c = false) : trimLeft cs = cs :=
  dropWhile_eq_self h

theorem trimLeft_append (hfront : ∀ c ∈ front, isBlank c = true) (cs : List Char) :
    trimLeft (front ++ cs) = trimLeft cs := List.dropWhile_append_of_pos hfront

theorem exists_append_trimLeft (cs : List Char) :
    ∃ front, cs = front ++ trimLeft cs ∧ ∀ c ∈ front, isBlank c = true :=
  ⟨cs.takeWhile isBlank, (trimLeft_append_takeWhile cs).symm,
    List.all_eq_true.mp List.all_takeWhile⟩

theorem trims_trimChars (cs : List Char) : Trims cs (trimChars cs) := by
  obtain ⟨front, hfront, hblank⟩ := exists_append_trimLeft cs
  obtain ⟨back, hback, hblank'⟩ := exists_append_trimLeft (trimLeft cs).reverse
  have hrest : trimLeft cs = trimChars cs ++ back.reverse := by
    rw [trimChars, ← List.reverse_append, ← hback, List.reverse_reverse]
  refine ⟨⟨front, back.reverse, ?_, hblank, fun c hc => hblank' c (List.mem_reverse.mp hc)⟩, ?_, ?_⟩
  · rw [List.append_assoc, ← hrest, ← hfront]
  · intro c hc
    obtain ⟨rest, hcs⟩ := List.head?_eq_some_iff.mp hc
    refine isBlank_head?_trimLeft cs c ?_
    rw [hrest, hcs]
    rfl
  · intro c hc
    rw [trimChars, List.getLast?_reverse] at hc
    exact isBlank_head?_trimLeft _ c hc

theorem Trims.eq_trimChars (h : Trims cs ts) : ts = trimChars cs := by
  obtain ⟨⟨front, back, rfl, hfront, hback⟩, hfirst, hlast⟩ := h
  rw [trimChars, List.append_assoc, trimLeft_append hfront]
  cases ts with
  | nil =>
    have hnone : trimLeft back = [] := by
      have happend := trimLeft_append hback []
      rwa [List.append_nil] at happend
    rw [List.nil_append, hnone]
    rfl
  | cons t ts =>
    have hback' : ∀ c ∈ back.reverse, isBlank c = true :=
      fun c hc => hback c (List.mem_reverse.mp hc)
    have hlast' : ∀ c ∈ (t :: ts).reverse.head?, isBlank c = false := by
      rwa [List.head?_reverse]
    have hrest : trimLeft (t :: ts ++ back) = t :: ts ++ back := trimLeft_eq_self hfirst
    rw [hrest, List.reverse_append, trimLeft_append hback',
      trimLeft_eq_self hlast', List.reverse_reverse]

theorem trims_iff : Trims cs ts ↔ ts = trimChars cs :=
  ⟨Trims.eq_trimChars, fun h => h ▸ trims_trimChars cs⟩

theorem trimChars_eq_self (h : ∀ c ∈ cs, isBlank c = false) : trimChars cs = cs :=
  (Trims.eq_trimChars ⟨⟨[], [], by simp, by simp, by simp⟩,
    fun c hc => h c (List.mem_of_head? hc), fun c hc => h c (List.mem_of_getLast? hc)⟩).symm

/-- Nothing is left of blanks alone. -/
theorem trimChars_eq_nil_iff : trimChars cs = [] ↔ ∀ c ∈ cs, isBlank c = true := by
  constructor
  · intro h
    obtain ⟨front, back, hcs, hfront, hback⟩ := (trims_trimChars cs).around
    rw [h, List.append_nil] at hcs
    rw [hcs]
    exact List.forall_mem_append.mpr ⟨hfront, hback⟩
  · intro h
    exact (Trims.eq_trimChars ⟨⟨cs, [], by simp, h, by simp⟩, by simp, by simp⟩).symm

end ScanGate.Text
