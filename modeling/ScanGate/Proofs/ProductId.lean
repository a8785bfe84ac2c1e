import ScanGate.ProductId
import ScanGate.Proofs.Text.Ascii
import ScanGate.Proofs.Text.Blank

/-! Product ids as they are read. An id is the text without the blanks around it, and there is
one when that text is neither empty nor too long and holds allowed characters only. None of
these is blank, so an id that is read again is the same id. -/
namespace ScanGate

namespace ProductId

/-- What an id has to be. -/
structure IsValid (id : ProductId) : Prop where
  nonempty : ¬ id.text.isEmpty = true
  short : ¬ maxBytes < id.text.utf8ByteSize
  allowed : ∀ c ∈ id.text.toList, isAllowed c = true

theorem toNat_lt_of_isAllowed {c : Char} (h : isAllowed c = true) : c.toNat < 128 := by
  simp only [isAllowed, Bool.or_eq_true, beq_iff_eq] at h
  obtain (h | rfl) | rfl := h
  · exact Text.toNat_lt_of_isAlphanum h
  · decide
  · decide

theorem isBlank_of_isAllowed {c : Char} (h : isAllowed c = true) : Text.isBlank c = false := by
  have hall := Text.forall_ascii (p := fun c => !(isAllowed c) || !(Text.isBlank c))
    (by decide) (toNat_lt_of_isAllowed h)
  simpa [h] using hall

theorem ofString_eq_ok_iff {s : String} {id : ProductId} :
    ofString s = .ok id ↔ id.text = Text.trim s ∧ id.IsValid := by
  obtain ⟨text⟩ := id
  unfold ofString
  constructor
  · intro h
    simp only at h
    split at h
    · cases h
    split at h
    · cases h
    split at h
    · next hempty hlong hallowed =>
      cases h
      exact ⟨rfl, hempty, hlong, List.all_eq_true.mp hallowed⟩
    · cases h
  · rintro ⟨rfl, hempty, hlong, hallowed⟩
    simp only [if_neg hempty, if_neg hlong, List.all_eq_true.mpr hallowed, if_true]

/-- An id is read as itself. -/
theorem IsValid.ofString_text {id : ProductId} (h : id.IsValid) : ofString id.text = .ok id := by
  have htrim : Text.trim id.text = id.text := by
    rw [Text.trim, Text.trimChars_eq_self fun c hc => isBlank_of_isAllowed (h.allowed c hc),
      String.ofList_toList]
  exact ofString_eq_ok_iff.mpr ⟨htrim.symm, h⟩

end ProductId

end ScanGate
