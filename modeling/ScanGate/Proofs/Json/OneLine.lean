import ScanGate.Proofs.Json.RoundTrip

/-! A value written on one line is on one line. Whatever is in its strings, no character
that is written is a control character: those of a text are written as escapes, the
literals of numbers have none, and all else is brackets, commas, colons and quotes. -/
namespace ScanGate.Json

/-- The text has no control character, and so no line break. -/
def OneLine (cs : List Char) : Prop := ∀ c ∈ cs, ¬ c.toNat < 0x20

instance (cs : List Char) : Decidable (OneLine cs) :=
  List.decidableBAll (fun c : Char => ¬ c.toNat < 0x20) cs

theorem oneLine_nil : OneLine [] := fun _ h => absurd h List.not_mem_nil

theorem oneLine_cons {c : Char} {cs : List Char} :
    OneLine (c :: cs) ↔ ¬ c.toNat < 0x20 ∧ OneLine cs := List.forall_mem_cons

theorem oneLine_append {xs ys : List Char} : OneLine (xs ++ ys) ↔ OneLine xs ∧ OneLine ys :=
  List.forall_mem_append

/-! ### Strings -/

theorem oneLine_hexDigits (width n : Nat) : OneLine (Text.hexDigits width n) := by
  have hdigit : ∀ m < 16, ¬ (Text.hexDigit m).toNat < 0x20 := by decide
  induction width generalizing n with
  | zero => exact oneLine_nil
  | succ width ih =>
    rw [Text.hexDigits, oneLine_append]
    refine ⟨ih _, oneLine_cons.mpr ⟨?_, oneLine_nil⟩⟩
    exact hdigit _ (Nat.mod_lt _ (by decide))

theorem oneLine_escapeChar (c : Char) : OneLine (escapeChar c) := by
  unfold escapeChar
  split_ifs with h₁ h₂ h₃ h₄ h₅ h₆ h₇ h₈
  -- The escapes of one letter are fixed texts.
  any_goals decide
  · rw [oneLine_append]
    exact ⟨by decide, oneLine_hexDigits _ _⟩
  · exact oneLine_cons.mpr ⟨h₈, oneLine_nil⟩

theorem oneLine_writeText (text : Option String) : OneLine (writeText text) := by
  cases text with
  | none =>
    have hhalf : writeText none = ['"', '\\', 'u', 'd', '8', '0', '0', '"'] := rfl
    rw [hhalf]
    decide
  | some s =>
    have hbody : OneLine (s.toList.flatMap escapeChar) := by
      intro c hc
      obtain ⟨d, -, hd⟩ := List.mem_flatMap.mp hc
      exact oneLine_escapeChar d c hd
    have hquoted : writeText (some s) = '"' :: s.toList.flatMap escapeChar ++ ['"'] := rfl
    rw [hquoted, oneLine_append, oneLine_cons]
    exact ⟨⟨by decide, hbody⟩, by decide⟩

/-! ### Numbers -/

theorem Numeral.oneLine {cs : List Char} (h : Numeral cs) : OneLine cs := by
  intro c hc
  obtain hdigit | hmark := h.isNumeric c hc
  · simp only [Char.isDigit, Bool.and_eq_true, decide_eq_true_eq] at hdigit
    have hlow : '0'.val.toNat ≤ c.val.toNat := UInt32.le_iff_toNat_le.mp hdigit.1
    have hzero : '0'.val.toNat = 48 := rfl
    rw [Char.toNat]
    omega
  · simp only [List.mem_cons, List.not_mem_nil, or_false] at hmark
    obtain rfl | rfl | rfl | rfl | rfl := hmark <;> decide

/-! ### Values -/

mutual

theorem oneLine_write : ∀ v : Json, v.IsWellFormed → OneLine v.write
  | null, _ => by rw [write]; decide
  | bool true, _ => by rw [write]; decide
  | bool false, _ => by rw [write]; decide
  | number _, h => (isLiteral_iff_numeral.mp h).oneLine
  | string text, _ => oneLine_writeText text
  | array [], _ => by rw [write]; decide
  | array (item :: items), h => by
    rw [write, oneLine_append, oneLine_cons]
    exact ⟨⟨by decide, oneLine_write item h.1⟩, oneLine_writeItems items h.2⟩
  | object [], _ => by rw [write]; decide
  | object ((key, value) :: members), h => by
    simp only [write, oneLine_append, oneLine_cons]
    exact ⟨⟨⟨by decide, oneLine_writeText key⟩, by decide, oneLine_write value h.1⟩,
      oneLine_writeMembers members h.2⟩

theorem oneLine_writeItems : ∀ items : List Json, wellFormedItems items →
    OneLine (writeItems items)
  | [], _ => by rw [writeItems]; decide
  | item :: items, h => by
    rw [writeItems, oneLine_append, oneLine_cons]
    exact ⟨⟨by decide, oneLine_write item h.1⟩, oneLine_writeItems items h.2⟩

theorem oneLine_writeMembers : ∀ members : List (Option String × Json),
    wellFormedMembers members → OneLine (writeMembers members)
  | [], _ => by rw [writeMembers]; decide
  | (key, value) :: members, h => by
    simp only [writeMembers, oneLine_append, oneLine_cons]
    exact ⟨⟨⟨by decide, oneLine_writeText key⟩, by decide, oneLine_write value h.1⟩,
      oneLine_writeMembers members h.2⟩

end

theorem oneLine_compact (v : Json) (h : v.IsWellFormed) : OneLine v.compact.toList := by
  rw [compact, String.toList_ofList]
  exact oneLine_write v h

end ScanGate.Json
