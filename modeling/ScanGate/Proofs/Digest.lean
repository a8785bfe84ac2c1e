import Mathlib.Algebra.Group.Nat.Defs
import ScanGate.Proofs.Text.Utf8
import ScanGate.Sha1

/-! Nothing is lost around the digest. The bytes of a text tell the text, and the forty
digits tell the digest, so two texts that come out the same have the same digest, and
where the digests differ the digits do. The digits are all lowercase. -/
namespace ScanGate

namespace Text

theorem hexDigit_inj {m n : Nat} (hm : m < 16) (hn : n < 16) (h : hexDigit m = hexDigit n) :
    m = n := by
  have hv := congrArg hexValue h
  rw [hexValue_hexDigit m hm, hexValue_hexDigit n hn] at hv
  exact Option.some.inj hv

theorem hexDigits_inj : ∀ {width m n : Nat}, m < 16 ^ width → n < 16 ^ width →
    hexDigits width m = hexDigits width n → m = n
  | 0, m, n, hm, hn, _ => by omega
  | width + 1, m, n, hm, hn, h => by
    rw [Nat.pow_succ] at hm hn
    obtain ⟨hhigh, hlow⟩ := List.append_inj h (by simp)
    have hdiv : m / 16 = n / 16 := hexDigits_inj (by omega) (by omega) hhigh
    have hmod : m % 16 = n % 16 := hexDigit_inj (Nat.mod_lt _ (by decide))
      (Nat.mod_lt _ (by decide)) (List.singleton_inj.mp hlow)
    omega

/-- A hexadecimal digit as they are written, with small letters. -/
def IsHexDigit (c : Char) : Prop := '0' ≤ c ∧ c ≤ '9' ∨ 'a' ≤ c ∧ c ≤ 'f'

instance : DecidablePred IsHexDigit := fun _ => inferInstanceAs (Decidable (_ ∨ _))

theorem isHexDigit_hexDigit : ∀ n < 16, IsHexDigit (hexDigit n) := by decide

theorem isHexDigit_of_mem {c : Char} : ∀ {width n : Nat}, c ∈ hexDigits width n → IsHexDigit c
  | 0, _, h => absurd h List.not_mem_nil
  | width + 1, n, h => by
    obtain h | h := List.mem_append.mp h
    · exact isHexDigit_of_mem h
    · rw [List.mem_singleton.mp h]
      exact isHexDigit_hexDigit _ (Nat.mod_lt _ (by decide))

end Text

namespace Sha1

/-! ### Digests -/

theorem word_inj {a b : UInt32}
    (h : Text.hexDigits 8 a.toNat = Text.hexDigits 8 b.toNat) : a = b :=
  UInt32.toNat_inj.mp (Text.hexDigits_inj a.toNat_lt b.toNat_lt h)

theorem State.hex_inj {s t : State} (h : s.hex = t.hex) : s = t := by
  simp only [State.hex, List.append_assoc] at h
  obtain ⟨ha, h⟩ := List.append_inj h (by simp)
  obtain ⟨hb, h⟩ := List.append_inj h (by simp)
  obtain ⟨hc, h⟩ := List.append_inj h (by simp)
  obtain ⟨hd, he⟩ := List.append_inj h (by simp)
  cases s
  cases t
  rw [State.mk.injEq]
  exact ⟨word_inj ha, word_inj hb, word_inj hc, word_inj hd, word_inj he⟩

theorem isHexDigit_of_mem_hex {m : List UInt8} {c : Char} (h : c ∈ hex m) : Text.IsHexDigit c := by
  simp only [hex, State.hex, List.mem_append] at h
  obtain (((h | h) | h) | h) | h := h <;> exact Text.isHexDigit_of_mem h

theorem hex_eq_iff {m n : List UInt8} : hex m = hex n ↔ digest m = digest n :=
  ⟨State.hex_inj, congrArg State.hex⟩

end Sha1

end ScanGate
