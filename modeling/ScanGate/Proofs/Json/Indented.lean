import ScanGate.Proofs.Json.RoundTrip

/-! A value that is written with indentation reads back as itself: what is written is one of the
spellings of the value, with the blanks of the lines between its tokens. The text of every item
and member stands in it as that of a value of its own. -/
namespace ScanGate.Json

theorem blanks_newline (level : Nat) : Blanks (newline level) := by
  intro c hc
  rw [newline, List.mem_cons] at hc
  obtain rfl | hc := hc
  · decide
  · rw [List.eq_of_mem_replicate hc]
    decide

theorem blanks_single : Blanks [' '] := by
  rintro _ (_ | ⟨_, ⟨⟩⟩)
  decide

mutual

theorem spelling_indent (level : Nat) : ∀ v : Json, v.IsWellFormed → v.Spelling (v.indent level)
  | null, _ => .nullWord
  | bool true, _ => .trueWord
  | bool false, _ => .falseWord
  | number _, h => .number (isLiteral_iff_numeral.mp h)
  | string text, _ => .string (quoted_writeText text)
  | array [], _ => .noItems blanks_nil
  | array (item :: items), h => by
    rw [indent, List.append_assoc, List.cons_append]
    exact .array (blanks_newline _)
      (items_indent level items h.2 item (spelling_indent (level + 1) item h.1))
  | object [], _ => .noMembers blanks_nil
  | object ((key, value) :: members), h => by
    have hm := members_indent level members h.2 key value (spelling_indent (level + 1) value h.1)
    simp only [indent, List.append_assoc, List.cons_append]
    exact .object (blanks_newline _) hm

theorem items_indent (level : Nat) : ∀ items : List Json, wellFormedItems items → ∀ item : Json,
    item.Spelling (item.indent (level + 1)) →
      Items (item :: items) (item.indent (level + 1) ++ indentItems level items)
  | [], _, _, hi => .last hi (blanks_newline level)
  | next :: items, h, _, hi => by
    have hn := items_indent level items h.2 next (spelling_indent (level + 1) next h.1)
    simp only [indentItems, List.append_assoc, List.cons_append]
    exact @Items.next _ _ _ [] _ _ hi blanks_nil (blanks_newline (level + 1)) hn

theorem members_indent (level : Nat) : ∀ members : List (Option String × Json),
    wellFormedMembers members → ∀ (key : Option String) (value : Json),
      value.Spelling (value.indent (level + 1)) →
      Members ((key, value) :: members)
        (writeText key ++ ':' :: ' ' :: (value.indent (level + 1) ++ indentMembers level members))
  | [], _, key, _, hv => @Members.last _ _ _ [] [' '] _ _ (quoted_writeText key) blanks_nil
    blanks_single hv (blanks_newline level)
  | (key', value') :: members, h, key, _, hv => by
    have hm := members_indent level members h.2 key' value' (spelling_indent (level + 1) value' h.1)
    simp only [indentMembers, List.append_assoc, List.cons_append]
    exact @Members.next _ _ _ _ [] [' '] _ [] _ _ (quoted_writeText key) blanks_nil blanks_single hv
      blanks_nil (blanks_newline (level + 1)) hm

end

theorem spelling_pretty (v : Json) (h : v.IsWellFormed) : v.Spelling v.pretty.toList := by
  rw [pretty, String.toList_ofList]
  exact spelling_indent 0 v h

/-! ### Parts of the text -/

theorem indent_infix_items {item : Json} {level : Nat} :
    ∀ {items : List Json}, item ∈ items → item.indent (level + 1) <:+: indentItems level items
  | next :: items, h => by
    obtain rfl | h := List.mem_cons.mp h
    · rw [indentItems]
      exact ⟨_, _, rfl⟩
    · rw [indentItems]
      exact (indent_infix_items h).trans (List.suffix_append _ _).isInfix

/-- The text of an item. -/
theorem indent_infix_array {item : Json} {level : Nat} {items : List Json} (h : item ∈ items) :
    item.indent (level + 1) <:+: (array items).indent level := by
  match items, h with
  | first :: items, h =>
    rw [indent]
    obtain rfl | h := List.mem_cons.mp h
    · exact ⟨_, _, rfl⟩
    · exact (indent_infix_items h).trans (List.suffix_append _ _).isInfix

/-- The text of a member. -/
def memberText (level : Nat) (key : Option String) (value : Json) : List Char :=
  writeText key ++ ':' :: ' ' :: value.indent level

theorem indent_infix_memberText (level : Nat) (key : Option String) (value : Json) :
    value.indent level <:+: memberText level key value :=
  ⟨writeText key ++ [':', ' '], [], by simp [memberText]⟩

theorem member_infix_members {key : Option String} {value : Json} {level : Nat} :
    ∀ {members : List (Option String × Json)}, (key, value) ∈ members →
      memberText (level + 1) key value <:+: indentMembers level members
  | (key', value') :: members, h => by
    rw [indentMembers]
    obtain ⟨⟨⟩⟩ | h := List.mem_cons.mp h
    · exact ⟨',' :: newline (level + 1), indentMembers level members, by simp [memberText]⟩
    · exact (member_infix_members h).trans (List.suffix_append _ _).isInfix

theorem member_infix_object {key : Option String} {value : Json} {level : Nat}
    {members : List (Option String × Json)} (h : (key, value) ∈ members) :
    memberText (level + 1) key value <:+: (object members).indent level := by
  match members, h with
  | (key', value') :: members, h =>
    rw [indent]
    obtain ⟨⟨⟩⟩ | h := List.mem_cons.mp h
    · exact ⟨'\x7b' :: newline (level + 1), indentMembers level members, by simp [memberText]⟩
    · exact (member_infix_members h).trans (List.suffix_append _ _).isInfix

theorem member_infix_record {key : String} {value : Json} {level : Nat}
    {members : List (String × Json)} (h : (key, value) ∈ members) :
    memberText (level + 1) (some key) value <:+: (record members).indent level :=
  member_infix_object (List.mem_map_of_mem h)

/-- The text of an item of a list that is a member. -/
theorem item_infix_record (key : String) {item : Json} {items : List Json} {level : Nat}
    {members : List (String × Json)} (h : (key, array items) ∈ members) (hitem : item ∈ items) :
    item.indent (level + 2) <:+: (record members).indent level :=
  (indent_infix_array hitem).trans
    ((indent_infix_memberText _ _ _).trans (member_infix_record h))

end ScanGate.Json
