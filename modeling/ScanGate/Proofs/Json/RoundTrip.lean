import ScanGate.Proofs.Json.Values

/-! A value that is written on one line reads back as itself: what is written is one of the
spellings of the value, the one without blanks. -/
namespace ScanGate.Json

mutual

/-- Every number in the value is written as a literal. -/
def IsWellFormed : Json → Prop
  | number literal => IsLiteral literal.toList
  | array items => wellFormedItems items
  | object members => wellFormedMembers members
  | _ => True

def wellFormedItems : List Json → Prop
  | [] => True
  | item :: rest => item.IsWellFormed ∧ wellFormedItems rest

def wellFormedMembers : List (Option String × Json) → Prop
  | [] => True
  | (_, value) :: rest => value.IsWellFormed ∧ wellFormedMembers rest

end

theorem isWellFormed_optionalText (s : Option String) : (optionalText s).IsWellFormed := by
  cases s <;> trivial

theorem isWellFormed_map {α : Type} {write : α → Json} {xs : List α}
    (h : ∀ x ∈ xs, (write x).IsWellFormed) : (array (xs.map write)).IsWellFormed := by
  induction xs with
  | nil => trivial
  | cons x xs ih =>
    rw [List.forall_mem_cons] at h
    exact ⟨h.1, ih h.2⟩

mutual

theorem spelling_write : ∀ v : Json, v.IsWellFormed → v.Spelling v.write
  | null, _ => .nullWord
  | bool true, _ => .trueWord
  | bool false, _ => .falseWord
  | number _, h => .number (isLiteral_iff_numeral.mp h)
  | string text, _ => .string (quoted_writeText text)
  | array [], _ => .noItems blanks_nil
  | array (item :: items), h =>
    @Spelling.array _ [] _ blanks_nil (items_write items h.2 item (spelling_write item h.1))
  | object [], _ => .noMembers blanks_nil
  | object ((key, value) :: members), h => by
    have hm := members_write members h.2 key value (spelling_write value h.1)
    rw [write, List.append_assoc, List.cons_append]
    exact @Spelling.object _ [] _ blanks_nil hm

theorem items_write : ∀ items : List Json, wellFormedItems items → ∀ item : Json,
    item.Spelling item.write → Items (item :: items) (item.write ++ writeItems items)
  | [], _, _, hi => @Items.last _ _ [] hi blanks_nil
  | next :: items, h, _, hi =>
    @Items.next _ _ _ [] [] _ hi blanks_nil blanks_nil
      (items_write items h.2 next (spelling_write next h.1))

theorem members_write : ∀ members : List (Option String × Json), wellFormedMembers members →
    ∀ (key : Option String) (value : Json), value.Spelling value.write →
      Members ((key, value) :: members)
        (writeText key ++ ':' :: (value.write ++ writeMembers members))
  | [], _, key, _, hv =>
    @Members.last _ _ _ [] [] _ [] (quoted_writeText key) blanks_nil blanks_nil hv blanks_nil
  | (key', value') :: members, h, key, _, hv => by
    have hm := members_write members h.2 key' value' (spelling_write value' h.1)
    rw [writeMembers, List.append_assoc, List.cons_append]
    exact @Members.next _ _ _ _ [] [] _ [] [] _ (quoted_writeText key) blanks_nil blanks_nil hv
      blanks_nil blanks_nil hm

end

/-! ### What is read -/

mutual

theorem Spelling.isWellFormed : ∀ {v : Json} {cs : List Char}, v.Spelling cs → v.IsWellFormed
  | _, _, .nullWord => trivial
  | _, _, .trueWord => trivial
  | _, _, .falseWord => trivial
  | _, _, .number h => isLiteral_iff_numeral.mpr h
  | _, _, .string _ => trivial
  | _, _, .noItems _ => trivial
  | _, _, .array _ h => h.wellFormedItems
  | _, _, .noMembers _ => trivial
  | _, _, .object _ h => h.wellFormedMembers

theorem Items.wellFormedItems : ∀ {items : List Json} {cs : List Char}, Items items cs →
    wellFormedItems items
  | _, _, .last h _ => ⟨h.isWellFormed, trivial⟩
  | _, _, .next h _ _ hs => ⟨h.isWellFormed, hs.wellFormedItems⟩

theorem Members.wellFormedMembers : ∀ {members : List (Option String × Json)} {cs : List Char},
    Members members cs → wellFormedMembers members
  | _, _, .last _ _ _ h _ => ⟨h.isWellFormed, trivial⟩
  | _, _, .next _ _ _ h _ _ hs => ⟨h.isWellFormed, hs.wellFormedMembers⟩

end

theorem Spells.isWellFormed {text : String} {v : Json} (h : Spells text v) : v.IsWellFormed := by
  obtain ⟨-, h, -, -⟩ := h
  exact h.isWellFormed

theorem wellFormedItems_iff {items : List Json} :
    wellFormedItems items ↔ ∀ item ∈ items, item.IsWellFormed := by
  induction items with
  | nil => simp [wellFormedItems]
  | cons item items ih => rw [wellFormedItems, ih, List.forall_mem_cons]

/-! ### On one line -/

theorem spells_compact (v : Json) (h : v.IsWellFormed) : Spells v.compact v := by
  refine .mk blanks_nil (spelling_write v h) blanks_nil ?_
  rw [compact, String.toList_ofList, List.nil_append, List.append_nil]

theorem read?_compact (v : Json) (h : v.IsWellFormed) : read? v.compact = some v :=
  read?_eq_some_iff.mpr (spells_compact v h)

end ScanGate.Json
