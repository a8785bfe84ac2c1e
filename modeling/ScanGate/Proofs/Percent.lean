import ScanGate.Percent
import ScanGate.Proofs.Text.Ascii
import ScanGate.Proofs.Text.Utf8

/-! Percent encoding, read back. An encoded text holds kept characters and escapes only; if the
percent sign is not kept, decoding gives the bytes again, and a text that needs no escape is
encoded as itself. -/
namespace ScanGate.Percent

open Text (upperHexDigit encodeUtf8)

variable {keep : Char → Bool} {b : UInt8} {bs : List UInt8}

theorem encodeBytes_cons_of_keep (hb : b.toNat < 128) (hkeep : keep (Char.ofNat b.toNat) = true) :
    encodeBytes keep (b :: bs) = Char.ofNat b.toNat :: encodeBytes keep bs := by
  simp [encodeBytes, hb, hkeep]

theorem encodeBytes_cons_of_not (h : ¬ (b.toNat < 128 ∧ keep (Char.ofNat b.toNat) = true)) :
    encodeBytes keep (b :: bs) = escape b ++ encodeBytes keep bs := by
  rw [encodeBytes, if_neg]
  simpa using h

/-- What is kept, and what escapes are made of, is all there is. -/
theorem forall_mem_encodeBytes {P : Char → Prop} (hpercent : P '%')
    (hdigit : ∀ n < 16, P (upperHexDigit n))
    (hkeep : ∀ c : Char, c.toNat < 128 → keep c = true → P c) (bs : List UInt8) :
    ∀ c ∈ encodeBytes keep bs, P c := by
  induction bs with
  | nil => exact List.forall_mem_nil P
  | cons b bs ih =>
    by_cases h : b.toNat < 128 ∧ keep (Char.ofNat b.toNat) = true
    · rw [encodeBytes_cons_of_keep h.1 h.2]
      have hb : (Char.ofNat b.toNat).toNat < 128 := by
        rw [Text.toNat_ofNat_of_lt h.1]
        exact h.1
      exact List.forall_mem_cons.mpr ⟨hkeep _ hb h.2, ih⟩
    · rw [encodeBytes_cons_of_not h]
      have hlt : b.toNat < 256 := b.toNat_lt_size
      refine List.forall_mem_append.mpr ⟨?_, ih⟩
      simp only [escape, List.forall_mem_cons]
      exact ⟨hpercent, hdigit _ (by omega), hdigit _ (Nat.mod_lt _ (by decide)),
        List.forall_mem_nil P⟩

theorem decodeBytes_cons_of_ne {c : Char} (hc : c ≠ '%') (cs : List Char) :
    decodeBytes (c :: cs) = encodeUtf8 (String.singleton c) ++ decodeBytes cs := by
  rw [decodeBytes]
  exact fun a b rest h => absurd h hc

theorem decodeBytes_escape (b : UInt8) (cs : List Char) :
    decodeBytes (escape b ++ cs) = b :: decodeBytes cs := by
  have hlt : b.toNat < 256 := b.toNat_lt_size
  have hhigh := Text.hexValue_upperHexDigit (b.toNat / 16) (by omega)
  have hlow := Text.hexValue_upperHexDigit (b.toNat % 16) (Nat.mod_lt _ (by decide))
  have hbyte : 16 * (b.toNat / 16) + b.toNat % 16 = b.toNat := Nat.div_add_mod _ _
  simp only [escape, List.cons_append, List.nil_append, decodeBytes, hhigh, hlow, hbyte,
    UInt8.ofNat_toNat]

theorem decodeBytes_encodeBytes (hpercent : keep '%' = false) (bs : List UInt8) :
    decodeBytes (encodeBytes keep bs) = bs := by
  induction bs with
  | nil => rfl
  | cons b bs ih =>
    by_cases h : b.toNat < 128 ∧ keep (Char.ofNat b.toNat) = true
    · have hne : Char.ofNat b.toNat ≠ '%' := by
        intro heq
        rw [heq, hpercent] at h
        exact absurd h.2 (by decide)
      have hb : (Char.ofNat b.toNat).toNat = b.toNat := Text.toNat_ofNat_of_lt h.1
      rw [encodeBytes_cons_of_keep h.1 h.2, decodeBytes_cons_of_ne hne, ih, Text.encodeUtf8_eq,
        String.toList_singleton]
      simp [Text.utf8EncodeChar_of_lt, hb, h.1]
    · rw [encodeBytes_cons_of_not h, decodeBytes_escape, ih]

/-- Where nothing needs an escape, encoding changes nothing. -/
theorem encode_of_forall {cs : List Char} (h : ∀ c ∈ cs, c.toNat < 128 ∧ keep c = true) :
    encode keep (String.ofList cs) = cs := by
  rw [encode, Text.encodeUtf8_eq, String.toList_ofList]
  induction cs with
  | nil => rfl
  | cons c cs ih =>
    obtain ⟨⟨hc, hkeep⟩, hcs⟩ := List.forall_mem_cons.mp h
    have hbyte : (UInt8.ofNat c.toNat).toNat = c.toNat := by
      rw [UInt8.toNat_ofNat_of_lt']
      exact Nat.lt_trans hc (by decide)
    have hchar : Char.ofNat (UInt8.ofNat c.toNat).toNat = c := by rw [hbyte, Char.ofNat_toNat]
    have hlt : (UInt8.ofNat c.toNat).toNat < 128 := by rwa [hbyte]
    have hkept : keep (Char.ofNat (UInt8.ofNat c.toNat).toNat) = true := by rwa [hchar]
    rw [List.flatMap_cons, Text.utf8EncodeChar_of_lt hc, List.singleton_append,
      encodeBytes_cons_of_keep hlt hkept, hchar, ih hcs]

/-- A text of unreserved characters and escapes. -/
inductive Escaped : List Char → Prop
  | nil : Escaped []
  | kept {c : Char} {cs : List Char} (hc : isUnreserved c = true) (h : Escaped cs) :
      Escaped (c :: cs)
  | escape {a b : Char} {cs : List Char} (ha : a ∈ "0123456789ABCDEF".toList)
      (hb : b ∈ "0123456789ABCDEF".toList) (h : Escaped cs) : Escaped ('%' :: a :: b :: cs)

theorem escaped_encodeBytes (bs : List UInt8) : Escaped (encodeBytes isUnreserved bs) := by
  induction bs with
  | nil => exact .nil
  | cons b bs ih =>
    by_cases h : b.toNat < 128 ∧ isUnreserved (Char.ofNat b.toNat) = true
    · rw [encodeBytes_cons_of_keep h.1 h.2]
      exact .kept h.2 ih
    · have hlt : b.toNat < 256 := b.toNat_lt_size
      have hdigit : ∀ n < 16, upperHexDigit n ∈ "0123456789ABCDEF".toList := by decide
      rw [encodeBytes_cons_of_not h]
      exact .escape (hdigit _ (by omega)) (hdigit _ (Nat.mod_lt _ (by decide))) ih

end ScanGate.Percent
