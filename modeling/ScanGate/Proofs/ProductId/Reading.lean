import ScanGate.Proofs.ProductId
import ScanGate.Proofs.Text.Utf8

/-! What is read as a product id, by the bytes of the text: the text without the blanks around it
has at least one and at most 64 bytes, and only those of ASCII letters, digits, hyphens and
underscores. -/
namespace ScanGate.ProductId

variable {c : Char} {s : String} {id : ProductId}

/-- The bytes of ASCII letters, digits, hyphen and underscore. -/
def isIdByte (b : UInt8) : Bool :=
  let n := b.toNat
  (48 ≤ n && n ≤ 57) || (65 ≤ n && n ≤ 90) || (97 ≤ n && n ≤ 122) || n == 45 || n == 95

/-- A character may be in an id when all its bytes may; there is only one then. -/
theorem isAllowed_iff : isAllowed c = true ↔ ∀ b ∈ String.utf8EncodeChar c, isIdByte b = true := by
  by_cases hc : c.toNat < 128
  · have hlooked := Text.forall_ascii (p := fun c => isAllowed c == isIdByte (UInt8.ofNat c.toNat))
      (by decide) hc
    rw [Text.utf8EncodeChar_of_lt hc, List.forall_mem_singleton, eq_of_beq hlooked]
  · obtain ⟨b, hb, hle⟩ := Text.exists_byte_of_le (Nat.le_of_not_lt hc)
    have hbyte : ¬ isIdByte b = true := by
      simp [isIdByte]
      omega
    exact ⟨fun h => absurd (toNat_lt_of_isAllowed h) hc, fun h => absurd (h b hb) hbyte⟩

theorem forall_isAllowed_iff :
    (∀ c ∈ s.toList, isAllowed c = true) ↔ ∀ b ∈ Text.encodeUtf8 s, isIdByte b = true := by
  rw [Text.encodeUtf8_eq, List.forall_mem_flatMap]
  exact forall₂_congr fun _ _ => isAllowed_iff

/-- The id is the text without the blanks around it, and its bytes are few and of the right kind. -/
structure IsRead (s : String) (id : ProductId) : Prop where
  trims : Text.Trims s.toList id.text.toList
  positive : 1 ≤ id.text.utf8ByteSize
  short : id.text.utf8ByteSize ≤ 64
  bytes : ∀ b ∈ Text.encodeUtf8 id.text, isIdByte b = true

theorem isValid_iff : id.IsValid ↔ 1 ≤ id.text.utf8ByteSize ∧ id.text.utf8ByteSize ≤ 64 ∧
    ∀ b ∈ Text.encodeUtf8 id.text, isIdByte b = true := by
  have hpositive : ¬ id.text.isEmpty = true ↔ 1 ≤ id.text.utf8ByteSize := by
    rw [String.isEmpty, beq_iff_eq]
    exact Nat.one_le_iff_ne_zero.symm
  rw [← hpositive, ← forall_isAllowed_iff]
  constructor
  · exact fun h => ⟨h.nonempty, Nat.le_of_not_lt h.short, h.allowed⟩
  · rintro ⟨hnonempty, hshort, hallowed⟩
    exact ⟨hnonempty, Nat.not_lt_of_le hshort, hallowed⟩

theorem ofString_eq_ok_iff_isRead : ofString s = .ok id ↔ IsRead s id := by
  have htrim : id.text = Text.trim s ↔ Text.Trims s.toList id.text.toList := by
    rw [Text.trims_iff, Text.trim, ← String.toList_inj, String.toList_ofList]
  rw [ofString_eq_ok_iff, htrim, isValid_iff]
  constructor
  · rintro ⟨h, hpositive, hshort, hbytes⟩
    exact ⟨h, hpositive, hshort, hbytes⟩
  · rintro ⟨h, hpositive, hshort, hbytes⟩
    exact ⟨h, hpositive, hshort, hbytes⟩

end ScanGate.ProductId
