import ScanGate.Proofs.Text.Utf8
import ScanGate.Text.Decode

/-! Decoding undoes encoding. The bytes of a character are read as that character, whatever
follows, so the bytes of a text are read as the text; a byte order mark in front of them changes
nothing. -/
namespace ScanGate.Text

variable {left value low high n : Nat} {b : UInt8}

/-! ### Bytes -/

theorem decodeFrom_lead (h : leadByte b = some (left, value, low, high)) (bs : List UInt8) :
    decodeFrom 0 0 0 0 (b :: bs) = decodeFrom left value low high bs := by
  have hb : ¬ b.toNat < 0x80 := by
    intro hb
    unfold leadByte at h
    grind
  rw [decodeFrom, if_neg hb, h]

/-- The byte with the last six bits. -/
def lastByte (n : Nat) : UInt8 := .ofNat (n % 64 + 128)

theorem toNat_lastByte : (lastByte n).toNat = n % 64 + 128 := by
  rw [lastByte, UInt8.toNat_ofNat']
  omega

theorem decodeFrom_last (h : low ≤ n % 64 + 128 ∧ n % 64 + 128 ≤ high) (bs : List UInt8) :
    decodeFrom 1 (n / 64) low high (lastByte n :: bs) = Char.ofNat n :: decodeFrom 0 0 0 0 bs := by
  have hvalue : 64 * (n / 64) + (n % 64 + 128) % 64 = n := by omega
  rw [decodeFrom, toNat_lastByte, if_pos h, hvalue, if_pos rfl]

theorem decodeFrom_next (h : low ≤ n % 64 + 128 ∧ n % 64 + 128 ≤ high) (bs : List UInt8) :
    decodeFrom (left + 2) (n / 64) low high (lastByte n :: bs) =
      decodeFrom (left + 1) n 0x80 0xBF bs := by
  have hvalue : 64 * (n / 64) + (n % 64 + 128) % 64 = n := by omega
  rw [decodeFrom, toNat_lastByte, if_pos h, hvalue, if_neg (Nat.succ_ne_zero left)]

/-! ### Characters -/

theorem leadByte_two : ∀ k < 30, leadByte (.ofNat (k + 2 + 0xC0)) =
    some (1, k + 2, 0x80, 0xBF) := by decide

theorem leadByte_three : ∀ k < 16, leadByte (.ofNat (k + 0xE0)) =
    some (2, k, if k = 0 then 0xA0 else 0x80, if k = 13 then 0x9F else 0xBF) := by decide

theorem leadByte_four : ∀ k < 5, leadByte (.ofNat (k + 0xF0)) =
    some (3, k, if k = 0 then 0x90 else 0x80, if k = 4 then 0x8F else 0xBF) := by decide

theorem decodeFrom_one (h : n < 0x80) (bs : List UInt8) :
    decodeFrom 0 0 0 0 (.ofNat n :: bs) = Char.ofNat n :: decodeFrom 0 0 0 0 bs := by
  have hb : (UInt8.ofNat n).toNat = n := by
    rw [UInt8.toNat_ofNat']
    omega
  rw [decodeFrom, hb, if_pos h]

theorem decodeFrom_two (h : 0x80 ≤ n ∧ n < 0x800) (bs : List UInt8) :
    decodeFrom 0 0 0 0 (.ofNat (n / 64 % 32 + 0xC0) :: lastByte n :: bs) =
      Char.ofNat n :: decodeFrom 0 0 0 0 bs := by
  obtain ⟨k, hk⟩ : ∃ k, n / 64 = k + 2 := ⟨n / 64 - 2, by omega⟩
  have htop : n / 64 % 32 = k + 2 := by omega
  rw [htop, decodeFrom_lead (leadByte_two k (by omega)), ← hk,
    decodeFrom_last ⟨by omega, by omega⟩]

/-- What would be shorter in two bytes and what would be half of a pair is ruled out by the bounds
for the second byte. -/
theorem decodeFrom_three (h : 0x800 ≤ n ∧ n < 0x10000) (hpair : n < 0xD800 ∨ 0xDFFF < n)
    (bs : List UInt8) :
    decodeFrom 0 0 0 0 (.ofNat (n / 4096 % 16 + 0xE0) :: lastByte (n / 64) :: lastByte n :: bs) =
      Char.ofNat n :: decodeFrom 0 0 0 0 bs := by
  have htop : n / 4096 % 16 = n / 64 / 64 := by omega
  have hlow : (if n / 64 / 64 = 0 then 0xA0 else 0x80) ≤ n / 64 % 64 + 128 := by
    split <;> omega
  have hhigh : n / 64 % 64 + 128 ≤ if n / 64 / 64 = 13 then 0x9F else 0xBF := by
    split <;> omega
  rw [htop, decodeFrom_lead (leadByte_three _ (by omega)), decodeFrom_next ⟨hlow, hhigh⟩,
    decodeFrom_last ⟨by omega, by omega⟩]

theorem decodeFrom_four (h : 0x10000 ≤ n ∧ n < 0x110000) (bs : List UInt8) :
    decodeFrom 0 0 0 0 (.ofNat (n / 262144 % 8 + 0xF0) :: lastByte (n / 4096) ::
      lastByte (n / 64) :: lastByte n :: bs) = Char.ofNat n :: decodeFrom 0 0 0 0 bs := by
  have htop : n / 262144 % 8 = n / 4096 / 64 := by omega
  have hnext : n / 4096 = n / 64 / 64 := by omega
  have hlow : (if n / 4096 / 64 = 0 then 0x90 else 0x80) ≤ n / 4096 % 64 + 128 := by
    split <;> omega
  have hhigh : n / 4096 % 64 + 128 ≤ if n / 4096 / 64 = 4 then 0x8F else 0xBF := by
    split <;> omega
  rw [htop, decodeFrom_lead (leadByte_four _ (by omega)), decodeFrom_next ⟨hlow, hhigh⟩, hnext,
    decodeFrom_next ⟨by omega, by omega⟩, decodeFrom_last ⟨by omega, by omega⟩]

theorem decodeFrom_utf8EncodeChar (c : Char) (bs : List UInt8) :
    decodeFrom 0 0 0 0 (String.utf8EncodeChar c ++ bs) = c :: decodeFrom 0 0 0 0 bs := by
  have hn : Char.ofNat c.val.toNat = c := Char.ofNat_toNat c
  have hvalid : c.val.toNat < 0xD800 ∨ 0xDFFF < c.val.toNat ∧ c.val.toNat < 0x110000 := c.valid
  rw [String.utf8EncodeChar]
  generalize c.val.toNat = n at hn hvalid ⊢
  subst hn
  split
  · exact decodeFrom_one (by omega) bs
  split
  · exact decodeFrom_two (by omega) bs
  split
  · exact decodeFrom_three (by omega) (by omega) bs
  · exact decodeFrom_four (by omega) bs

/-! ### Texts -/

theorem decodeFrom_flatMap (cs : List Char) :
    decodeFrom 0 0 0 0 (cs.flatMap String.utf8EncodeChar) = cs := by
  induction cs with
  | nil => rfl
  | cons c cs ih => rw [List.flatMap_cons, decodeFrom_utf8EncodeChar, ih]

theorem decodeLossy_toUTF8 (s : String) : decodeLossy s.toUTF8 = s := by
  rw [decodeLossy, ← encodeUtf8, encodeUtf8_eq, decodeFrom_flatMap, String.ofList_toList]

/-- No byte of a text is one of the byte order marks of UTF-16. -/
theorem lt_of_mem_toUTF8 {s : String} (h : b ∈ s.toUTF8.toList) : b.toNat < 0xF8 := by
  rw [← encodeUtf8, encodeUtf8_eq] at h
  obtain ⟨c, -, hc⟩ := List.mem_flatMap.mp h
  rw [String.utf8EncodeChar] at hc
  generalize c.val.toNat = n at hc
  repeat' split at hc
  all_goals
    simp only [List.mem_cons, List.not_mem_nil, or_false] at hc
    obtain ⟨k, hk, rfl⟩ : ∃ k, k < 0xF8 ∧ b = UInt8.ofNat k := by grind
    rw [UInt8.toNat_ofNat']
    omega

/-- The bytes of a text are read as the text, less a byte order mark in front. -/
theorem toList_decode_toUTF8 (s : String) : (decode s.toUTF8).toList =
    if s.toList.head? = some (Char.ofNat 0xFEFF) then s.toList.tail else s.toList := by
  have hbytes : s.toUTF8.toList = s.toList.flatMap String.utf8EncodeChar := encodeUtf8_eq s
  unfold decode
  split
  · next bs hbs =>
    have hs : s.toList = Char.ofNat 0xFEFF :: decodeFrom 0 0 0 0 bs := by
      rw [← decodeFrom_flatMap s.toList, ← hbytes, hbs]
      exact decodeFrom_three (n := 0xFEFF) (by decide) (by decide) bs
    rw [String.toList_ofList, hs]
    exact (if_pos rfl).symm
  · next bs hbs => exact absurd (lt_of_mem_toUTF8 (hbs ▸ List.mem_cons_self)) (by decide)
  · next bs hbs => exact absurd (lt_of_mem_toUTF8 (hbs ▸ List.mem_cons_self)) (by decide)
  · next hmark _ _ =>
    rw [decodeLossy_toUTF8, if_neg]
    intro h
    obtain ⟨cs, hs⟩ := List.head?_eq_some_iff.mp h
    rw [hbytes, hs] at hmark
    exact hmark _ rfl

end ScanGate.Text
