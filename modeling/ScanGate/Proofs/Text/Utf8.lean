import ScanGate.Text.Utf8

/-! Texts and their bytes. The bytes are those of the characters one after the other, a
character of ASCII is a byte, and the bytes tell the text. -/
namespace ScanGate.Text

variable {c : Char} {s t : String}

theorem toList_loop (bs : ByteArray) (i : Nat) (r : List UInt8) :
    ByteArray.toList.loop bs i r = r.reverse ++ bs.data.toList.drop i := by
  fun_induction ByteArray.toList.loop bs i r with
  | case1 i r h ih =>
    have hi : i < bs.data.toList.length := by simpa using h
    have hget : bs.get! i = bs.data.toList[i] := by simp [ByteArray.get!, h]
    rw [ih, List.drop_eq_getElem_cons hi, hget]
    simp
  | case2 i r h =>
    rw [List.drop_eq_nil_of_le (by simpa using h)]
    simp

theorem toList_eq (bs : ByteArray) : bs.toList = bs.data.toList := by
  rw [ByteArray.toList, toList_loop]
  rfl

/-- The bytes of a text tell the text. -/
theorem toUTF8_toList_inj : s.toUTF8.toList = t.toUTF8.toList ↔ s = t := by
  constructor
  · intro h
    rw [toList_eq, toList_eq, Array.toList_inj] at h
    exact String.toByteArray_inj.mp (ByteArray.ext h)
  · rintro rfl
    rfl

/-- Bytes that come from a text are read as that text. -/
theorem ofUtf8?_toUTF8 (s : String) : ofUtf8? s.toUTF8 = some s := dif_pos s.isValidUTF8

theorem encodeUtf8_eq (s : String) : encodeUtf8 s = s.toList.flatMap String.utf8EncodeChar := by
  have hbytes : s.toUTF8 = s.toList.utf8Encode := String.utf8Encode_toList.symm
  rw [encodeUtf8, hbytes, toList_eq, List.utf8Encode]
  simp

theorem utf8EncodeChar_of_lt (h : c.toNat < 128) :
    String.utf8EncodeChar c = [UInt8.ofNat c.toNat] := by
  have hc : c.toNat ≤ 127 := Nat.le_of_lt_succ h
  simp [String.utf8EncodeChar, hc]

/-- The last byte of any other character is none of ASCII. -/
theorem exists_byte_of_le (h : 128 ≤ c.toNat) :
    ∃ b ∈ String.utf8EncodeChar c, 128 ≤ b.toNat := by
  have hval : ¬ c.val.toNat ≤ 127 := Nat.not_le_of_lt h
  have hlast : 128 ≤ (UInt8.ofNat (c.val.toNat % 64 + 128)).toNat := by
    rw [UInt8.toNat_ofNat']
    omega
  refine ⟨UInt8.ofNat (c.val.toNat % 64 + 128), ?_, hlast⟩
  rw [String.utf8EncodeChar]
  simp only [if_neg hval]
  split
  · simp
  · split <;> simp

/-- A text of ASCII has as many bytes as characters. -/
theorem utf8ByteSize_of_ascii (h : ∀ c ∈ s.toList, c.toNat < 128) :
    s.utf8ByteSize = s.toList.length := by
  have hbytes : s.utf8ByteSize = (encodeUtf8 s).length := by
    rw [encodeUtf8, toList_eq]
    rfl
  rw [hbytes, encodeUtf8_eq]
  generalize s.toList = cs at *
  induction cs with
  | nil => rfl
  | cons c cs ih =>
    obtain ⟨hc, hcs⟩ := List.forall_mem_cons.mp h
    rw [List.flatMap_cons, List.length_append, ih hcs, utf8EncodeChar_of_lt hc,
      List.length_singleton, List.length_cons, Nat.add_comm]

end ScanGate.Text
