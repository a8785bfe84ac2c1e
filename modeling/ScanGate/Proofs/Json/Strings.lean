import Mathlib.Tactic.SplitIfs
import ScanGate.Json.Printer
import ScanGate.Proofs.Json.Grammar

/-! The reader of strings takes the quoted texts of the grammar: it stops at the closing
quote and leaves what comes after it. The writer spells a text in one of these ways; every
character is written so that it stands for itself and does not close the string. -/
namespace ScanGate.Json

variable {cs rest left : List Char} {ps : List Piece} {text : Option String}

/-! ### Reading -/

theorem readPieces_plain {c : Char} (hq : c ≠ '"') (hb : c ≠ '\\') (hc : ¬ c.toNat < 0x20)
    (h : readPieces rest = some (ps, left)) :
    readPieces (c :: rest) = some (.plain c :: ps, left) := by
  rw [readPieces]
  · simp [hb, hc, h]
  all_goals simp_all

theorem readPieces_letter {c d : Char} (hd : simpleEscape d = some c)
    (h : readPieces rest = some (ps, left)) :
    readPieces ('\\' :: d :: rest) = some (.plain c :: ps, left) := by
  have hu : d ≠ 'u' := by
    rintro rfl
    simp [simpleEscape] at hd
  rw [readPieces]
  · simp [hd, h]
  · rintro a b c d rest he
    simp_all

theorem Piece.Spelling.readPieces {p : Piece} (hp : p.Spelling cs)
    (h : readPieces rest = some (ps, left)) :
    readPieces (cs ++ rest) = some (p :: ps, left) := by
  cases hp with
  | plain hq hb hc => exact readPieces_plain hq hb hc h
  | letter hd => exact readPieces_letter hd h
  | unit hu => simp [Json.readPieces, hu, h]

theorem Pieces.readPieces (h : Pieces ps cs) (rest : List Char) :
    readPieces (cs ++ '"' :: rest) = some (ps, rest) := by
  induction h with
  | nil => simp [Json.readPieces]
  | cons hp _ ih =>
    rw [List.append_assoc]
    exact hp.readPieces ih

theorem pieces_of_readPieces (h : readPieces cs = some (ps, left)) :
    ∃ body, Pieces ps body ∧ cs = body ++ '"' :: left := by
  fun_induction readPieces cs generalizing ps with
  | case1 => cases h
  | case2 rest =>
    cases h
    exact ⟨[], .nil, rfl⟩
  | case3 a b c d rest ih =>
    simp only [Option.bind_eq_bind, Option.bind_eq_some_iff, Prod.exists] at h
    obtain ⟨n, hn, ps, left, hs, h⟩ := h
    cases h
    obtain ⟨body, hbody, rfl⟩ := ih hs
    exact ⟨_, .cons (.unit hn) hbody, rfl⟩
  | case4 c rest _ ih =>
    simp only [Option.bind_eq_bind, Option.bind_eq_some_iff, Prod.exists] at h
    obtain ⟨plain, hc, ps, left, hs, h⟩ := h
    cases h
    obtain ⟨body, hbody, rfl⟩ := ih hs
    exact ⟨_, .cons (.letter hc) hbody, rfl⟩
  | case5 => cases h
  | case6 c rest hq _ _ hc ih =>
    simp only [Option.bind_eq_bind, Option.bind_eq_some_iff, Prod.exists] at h
    obtain ⟨ps, left, hs, h⟩ := h
    cases h
    obtain ⟨body, hbody, rfl⟩ := ih hs
    rw [not_or] at hc
    exact ⟨_, .cons (.plain hq hc.1 hc.2) hbody, rfl⟩

/-- The reader takes a quoted text after its opening quote. -/
theorem Quoted.readString (h : Quoted text cs) :
    ∃ body, cs = '"' :: body ∧ ∀ rest, readString (body ++ rest) = some (text, rest) := by
  obtain @⟨ps, body, hp⟩ := h
  refine ⟨body ++ ['"'], rfl, fun rest => ?_⟩
  rw [List.append_assoc, List.singleton_append, Json.readString, hp.readPieces]
  rfl

theorem quoted_of_readString (h : readString cs = some (text, left)) :
    ∃ body, Quoted text ('"' :: body) ∧ cs = body ++ left := by
  simp only [readString, Option.bind_eq_bind, Option.bind_eq_some_iff, Prod.exists] at h
  obtain ⟨ps, left, hp, h⟩ := h
  cases h
  obtain ⟨body, hbody, rfl⟩ := pieces_of_readPieces hp
  exact ⟨body ++ ['"'], .mk hbody, by simp⟩

/-! ### Writing -/

theorem hexUnit_hexDigits {n : Nat} (h : n < 0x20) :
    ∃ a b c d, Text.hexDigits 4 n = [a, b, c, d] ∧ hexUnit a b c d = some n := by
  refine ⟨_, _, _, _, rfl, ?_⟩
  have h₀ := Text.hexValue_hexDigit (n / 16 / 16 / 16 % 16) (by omega)
  have h₁ := Text.hexValue_hexDigit (n / 16 / 16 % 16) (by omega)
  have h₂ := Text.hexValue_hexDigit (n / 16 % 16) (by omega)
  have h₃ := Text.hexValue_hexDigit (n % 16) (by omega)
  have he : 4096 * (n / 16 / 16 / 16 % 16) + 256 * (n / 16 / 16 % 16) + 16 * (n / 16 % 16) +
      n % 16 = n := by omega
  simp only [hexUnit, h₀, h₁, h₂, h₃, Option.bind_eq_bind, Option.bind_some, he]
  rfl

theorem Piece.ofUnit_of_lt {n : Nat} (h : n < 0xD800) : ofUnit n = .plain (Char.ofNat n) := by
  simp only [ofUnit]
  rw [if_neg (by omega), if_neg (by omega)]

theorem spelling_escapeChar (c : Char) : (Piece.plain c).Spelling (escapeChar c) := by
  have hc : Char.ofNat c.toNat = c := Char.ofNat_toNat c
  unfold escapeChar
  split_ifs with h₁ h₂ h₃ h₄ h₅ h₆ h₇ h₈
  · subst h₁; exact .letter rfl
  · subst h₂; exact .letter rfl
  · subst h₃; exact .letter rfl
  · subst h₄; exact .letter rfl
  · subst h₅; exact .letter rfl
  · rw [← hc, h₆]; exact .letter rfl
  · rw [← hc, h₇]; exact .letter rfl
  · obtain ⟨a, b, d, e, hx, hu⟩ := hexUnit_hexDigits h₈
    have hunit := Piece.Spelling.unit hu
    rw [Piece.ofUnit_of_lt (by omega), hc] at hunit
    rw [hx]
    exact hunit
  · exact .plain h₁ h₂ h₈

theorem pieces_flatMap_escapeChar (cs : List Char) :
    Pieces (cs.map .plain) (cs.flatMap escapeChar) := by
  induction cs with
  | nil => exact .nil
  | cons c cs ih => exact .cons (spelling_escapeChar c) ih

theorem Piece.join_map_plain (cs : List Char) : join (cs.map .plain) = some cs := by
  induction cs with
  | nil => rfl
  | cons c cs ih => simp [join, ih]

/-- What is written for a string, with or without a text, spells it. -/
theorem quoted_writeText (text : Option String) : Quoted text (writeText text) := by
  cases text with
  | none =>
    have hu : hexUnit 'd' '8' '0' '0' = some 0xD800 := by decide
    exact .mk (.cons (.unit hu) .nil)
  | some s =>
    have h := Quoted.mk (pieces_flatMap_escapeChar s.toList)
    rw [Piece.join_map_plain, Option.map_some, String.ofList_toList] at h
    exact h

end ScanGate.Json
