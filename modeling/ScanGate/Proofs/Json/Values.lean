import ScanGate.Proofs.Json.Literals
import ScanGate.Proofs.Json.Strings

/-! The reader accepts exactly the grammar: a text reads as a value if and only if it spells
the value. In one direction the induction is on the spelling and keeps what comes after
it; the fuel that the reader takes from the length of the text is enough, since every value
and every entry of a list has a character of its own. In the other direction the induction
is on the fuel. -/
namespace ScanGate.Json

variable {fuel : Nat} {cs rest left blanks : List Char} {value : Json} {items : List Json}
  {members : List (Option String × Json)}

/-! ### Blanks -/

theorem blanks_nil : Blanks [] := fun _ h => absurd h List.not_mem_nil

theorem skipSpace_cons {c : Char} (h : isSpace c = false) : skipSpace (c :: cs) = c :: cs := by
  simp [skipSpace, h]

theorem skipSpace_append (h : Blanks blanks) : skipSpace (blanks ++ rest) = skipSpace rest :=
  List.dropWhile_append_of_pos h

theorem skipSpace_blanks (h : Blanks blanks) : skipSpace blanks = [] := by
  rw [← List.append_nil blanks, skipSpace_append h]
  rfl

/-- What the reader skips are blanks. -/
theorem exists_blanks (cs : List Char) : ∃ blanks, Blanks blanks ∧ cs = blanks ++ skipSpace cs :=
  ⟨cs.takeWhile isSpace, fun c hc => List.all_eq_true.mp List.all_takeWhile c hc,
    List.takeWhile_append_dropWhile.symm⟩

theorem exists_blanks_of_skipSpace (h : skipSpace cs = rest) :
    ∃ blanks, Blanks blanks ∧ cs = blanks ++ rest := by
  subst h
  exact exists_blanks cs

theorem closes_blanks (h : Blanks blanks) (hr : Closes rest) : Closes (blanks ++ rest) := by
  cases blanks with
  | nil => exact hr
  | cons c blanks =>
    rintro d ⟨⟩
    have hc : isSpace c = true := h c List.mem_cons_self
    simp only [isSpace, Bool.or_eq_true, beq_iff_eq] at hc
    rcases hc with ((rfl | rfl) | rfl) | rfl <;> decide

theorem closes_cons {c : Char} (h : c = ',' ∨ c = ']' ∨ c = '\x7d') : Closes (c :: rest) := by
  rintro d ⟨⟩
  rcases h with rfl | rfl | rfl <;> decide

theorem not_isSpace_of_numeral {c : Char} (h : c = '-' ∨ c.isDigit = true) :
    isSpace c = false ∧ c ≠ ']' := by
  rcases h with rfl | h
  · decide
  · constructor
    · simp only [isSpace, Bool.or_eq_false_iff, beq_eq_false_iff_ne]
      refine ⟨⟨⟨?_, ?_⟩, ?_⟩, ?_⟩ <;> (rintro rfl; revert h; decide)
    · rintro rfl
      revert h
      decide

/-- No spelling begins with a blank, or with the end of a list. -/
theorem Spelling.head (h : value.Spelling cs) :
    ∃ c tail, cs = c :: tail ∧ isSpace c = false ∧ c ≠ ']' := by
  cases h with
  | number h =>
    obtain ⟨c, tail, hc, hd⟩ := h.head
    exact ⟨c, tail, hc, not_isSpace_of_numeral hd⟩
  | string h =>
    obtain ⟨body, rfl, -⟩ := h.readString
    exact ⟨'"', body, rfl, by decide, by decide⟩
  | _ => exact ⟨_, _, rfl, by decide, by decide⟩

theorem Spelling.skipSpace (h : value.Spelling cs) (rest : List Char) :
    skipSpace (cs ++ rest) = cs ++ rest := by
  obtain ⟨c, tail, rfl, hs, -⟩ := h.head
  exact skipSpace_cons hs

theorem Items.head (h : Items items cs) :
    ∃ c tail, cs = c :: tail ∧ isSpace c = false ∧ c ≠ ']' := by
  cases h with
  | last h | next h =>
    obtain ⟨c, tail, rfl, hc⟩ := h.head
    exact ⟨c, _, rfl, hc⟩

theorem Members.head (h : Members members cs) : ∃ tail, cs = '"' :: tail := by
  cases h with
  | last hk | next hk =>
    obtain ⟨body, rfl, -⟩ := hk.readString
    exact ⟨_, rfl⟩

/-! ### One step of the reader -/

theorem readValue_numeral (h : Numeral cs) (hr : Closes rest) :
    readValue (fuel + 1) (cs ++ rest) = some (number (String.ofList cs), rest) := by
  have hn := h.readNumber_append hr
  obtain ⟨c, tail, rfl, hc⟩ := h.head
  rw [List.cons_append] at hn ⊢
  rw [readValue]
  · rw [hn]; rfl
  all_goals
    rintro tail' he
    simp only [List.cons.injEq] at he
    obtain ⟨rfl, -⟩ := he
    revert hc
    decide

theorem readValue_items (hb : Blanks blanks) (h : Items items cs)
    (hs : readItems fuel (cs ++ rest) = some (items, left)) :
    readValue (fuel + 1) ('[' :: (blanks ++ (cs ++ rest))) = some (array items, left) := by
  obtain ⟨c, tail, rfl, hc, hne⟩ := h.head
  rw [List.cons_append] at hs ⊢
  rw [readValue, skipSpace_append hb, skipSpace_cons hc]
  split
  · next he =>
    simp only [List.cons.injEq] at he
    exact absurd he.1 hne
  · rw [hs]; rfl

theorem readValue_members (hb : Blanks blanks) (h : Members members cs)
    (hs : readMembers fuel (cs ++ rest) = some (members, left)) :
    readValue (fuel + 1) ('\x7b' :: (blanks ++ (cs ++ rest))) = some (object members, left) := by
  obtain ⟨tail, rfl⟩ := h.head
  rw [List.cons_append] at hs ⊢
  rw [readValue, skipSpace_append hb, skipSpace_cons (by decide)]
  split
  · next he =>
    simp only [List.cons.injEq] at he
    exact absurd he.1 (by decide)
  · rw [hs]; rfl

/-- The value after a key and its colon. -/
theorem readMembers_eq {key : Option String} {name around before : List Char}
    (hk : Quoted key name) (hc : Blanks around) (hb : Blanks before) (h : value.Spelling cs)
    (hv : readValue fuel (cs ++ rest) = some (value, rest)) :
    readMembers (fuel + 1) (name ++ (around ++ ':' :: (before ++ (cs ++ rest)))) =
      match skipSpace rest with
      | ',' :: rest => do
        let (members, rest) ← readMembers fuel (skipSpace rest)
        return ((key, value) :: members, rest)
      | '\x7d' :: rest => some ([(key, value)], rest)
      | _ => none := by
  obtain ⟨body, rfl, hread⟩ := hk.readString
  have hcolon (rest : List Char) : skipSpace (around ++ ':' :: rest) = ':' :: rest := by
    rw [skipSpace_append hc, skipSpace_cons (by decide)]
  have hvalue : skipSpace (before ++ (cs ++ rest)) = cs ++ rest := by
    rw [skipSpace_append hb, h.skipSpace]
  rw [List.cons_append, readMembers, hread, Option.bind_eq_bind, Option.bind_some]
  dsimp only
  rw [hcolon]
  change (readValue fuel (skipSpace (before ++ (cs ++ rest)))).bind _ = _
  rw [hvalue, hv]
  rfl

/-! ### What is spelled is read -/

mutual

theorem Spelling.readValue : ∀ {v : Json} {cs : List Char}, v.Spelling cs →
    ∀ fuel rest, Closes rest → cs.length < fuel → readValue fuel (cs ++ rest) = some (v, rest)
  | _, _, .nullWord, fuel + 1, rest, _, _ => rfl
  | _, _, .trueWord, fuel + 1, rest, _, _ => rfl
  | _, _, .falseWord, fuel + 1, rest, _, _ => rfl
  | _, _, .number h, fuel + 1, rest, hr, _ => by
    rw [readValue_numeral h hr, String.ofList_toList]
  | _, _, .string h, fuel + 1, rest, _, _ => by
    obtain ⟨body, rfl, hread⟩ := h.readString
    rw [List.cons_append, Json.readValue, hread]
    rfl
  | _, _, .noItems hb, fuel + 1, rest, _, _ => by
    rw [List.cons_append, List.append_assoc, Json.readValue, skipSpace_append hb]
    rfl
  | _, _, .array hb h, fuel + 1, rest, _, hf => by
    simp only [List.length_cons, List.length_append] at hf
    rw [List.cons_append, List.append_assoc]
    exact readValue_items hb h (h.readItems fuel rest (by omega))
  | _, _, .noMembers hb, fuel + 1, rest, _, _ => by
    rw [List.cons_append, List.append_assoc, Json.readValue, skipSpace_append hb]
    rfl
  | _, _, .object hb h, fuel + 1, rest, _, hf => by
    simp only [List.length_cons, List.length_append] at hf
    rw [List.cons_append, List.append_assoc]
    exact readValue_members hb h (h.readMembers fuel rest (by omega))

theorem Items.readItems : ∀ {items : List Json} {cs : List Char}, Items items cs →
    ∀ fuel rest, cs.length < fuel → readItems fuel (cs ++ rest) = some (items, rest)
  | _, _, @Items.last _ _ after h ha, fuel + 1, rest, hf => by
    simp only [List.length_cons, List.length_append, List.append_assoc, List.cons_append,
      List.nil_append] at hf ⊢
    have hv := h.readValue fuel (after ++ ']' :: rest)
      (closes_blanks ha (closes_cons (.inr (.inl rfl)))) (by omega)
    rw [Json.readItems, hv]
    simp [skipSpace_append ha, skipSpace_cons (show isSpace ']' = false by decide)]
  | _, _, @Items.next _ _ _ after before tail h ha hb hs, fuel + 1, rest, hf => by
    simp only [List.length_cons, List.length_append, List.append_assoc, List.cons_append] at hf ⊢
    have hv := h.readValue fuel (after ++ ',' :: (before ++ (tail ++ rest)))
      (closes_blanks ha (closes_cons (.inl rfl))) (by omega)
    have hi := hs.readItems fuel rest (by omega)
    obtain ⟨c, tail, rfl, hc, -⟩ := hs.head
    rw [List.cons_append] at hi hv ⊢
    rw [Json.readItems, hv]
    simp [skipSpace_append ha, skipSpace_cons (show isSpace ',' = false by decide),
      skipSpace_append hb, skipSpace_cons hc, hi]

theorem Members.readMembers : ∀ {members : List (Option String × Json)} {cs : List Char},
    Members members cs → ∀ fuel rest, cs.length < fuel →
      readMembers fuel (cs ++ rest) = some (members, rest)
  | _, _, @Members.last _ _ _ _ _ _ after hk hc hb h ha, fuel + 1, rest, hf => by
    simp only [List.length_cons, List.length_append, List.append_assoc, List.cons_append,
      List.nil_append] at hf ⊢
    have hv := h.readValue fuel (after ++ '\x7d' :: rest)
      (closes_blanks ha (closes_cons (.inr (.inr rfl)))) (by omega)
    rw [readMembers_eq hk hc hb h hv]
    simp [skipSpace_append ha, skipSpace_cons (show isSpace '\x7d' = false by decide)]
  | _, _, @Members.next _ _ _ _ _ _ _ after blanks tail hk hc hb h ha hn hs, fuel + 1, rest,
      hf => by
    simp only [List.length_cons, List.length_append, List.append_assoc, List.cons_append] at hf ⊢
    have hv := h.readValue fuel (after ++ ',' :: (blanks ++ (tail ++ rest)))
      (closes_blanks ha (closes_cons (.inl rfl))) (by omega)
    have hm := hs.readMembers fuel rest (by omega)
    rw [readMembers_eq hk hc hb h hv]
    obtain ⟨tail, rfl⟩ := hs.head
    rw [List.cons_append] at hm ⊢
    simp [skipSpace_append ha, skipSpace_cons (show isSpace ',' = false by decide),
      skipSpace_append hn, skipSpace_cons (show isSpace '"' = false by decide), hm]

end

/-! ### What is read is spelled -/

mutual

theorem spelling_of_readValue : ∀ (fuel : Nat) {cs left : List Char} {v : Json},
    readValue fuel cs = some (v, left) → ∃ body, v.Spelling body ∧ cs = body ++ left
  | 0, _, _, _, h => nomatch h
  | fuel + 1, cs, left, v, h => by
    unfold readValue at h
    split at h
    · cases h; exact ⟨_, .nullWord, rfl⟩
    · cases h; exact ⟨_, .trueWord, rfl⟩
    · cases h; exact ⟨_, .falseWord, rfl⟩
    · simp only [Option.bind_eq_bind, Option.bind_eq_some_iff, Prod.exists] at h
      obtain ⟨text, rest, hs, h⟩ := h
      cases h
      obtain ⟨body, hq, rfl⟩ := quoted_of_readString hs
      exact ⟨_, .string hq, rfl⟩
    · next rest =>
      obtain ⟨blanks, hb, hrest⟩ := exists_blanks rest
      split at h
      · next he =>
        cases h
        rw [hrest, he]
        exact ⟨_, .noItems hb, by simp⟩
      · simp only [Option.bind_eq_bind, Option.bind_eq_some_iff, Prod.exists] at h
        obtain ⟨items, left', hi, h⟩ := h
        cases h
        obtain ⟨body, hs, he⟩ := items_of_readItems fuel hi
        rw [hrest, he]
        exact ⟨_, .array hb hs, by simp⟩
    · next rest =>
      obtain ⟨blanks, hb, hrest⟩ := exists_blanks rest
      split at h
      · next he =>
        cases h
        rw [hrest, he]
        exact ⟨_, .noMembers hb, by simp⟩
      · simp only [Option.bind_eq_bind, Option.bind_eq_some_iff, Prod.exists] at h
        obtain ⟨members, left', hm, h⟩ := h
        cases h
        obtain ⟨body, hs, he⟩ := members_of_readMembers fuel hm
        rw [hrest, he]
        exact ⟨_, .object hb hs, by simp⟩
    · simp only [Option.bind_eq_bind, Option.bind_eq_some_iff, Prod.exists] at h
      obtain ⟨literal, left', hn, h⟩ := h
      cases h
      obtain ⟨hnumeral, he⟩ := numeral_of_readNumber hn
      have hspelling : (number (String.ofList literal)).Spelling literal := by
        have hlist := String.toList_ofList (l := literal)
        rw [← hlist] at hnumeral
        have hs := Spelling.number hnumeral
        rwa [hlist] at hs
      exact ⟨literal, hspelling, he⟩

theorem items_of_readItems : ∀ (fuel : Nat) {cs left : List Char} {items : List Json},
    readItems fuel cs = some (items, left) → ∃ body, Items items body ∧ cs = body ++ left
  | 0, _, _, _, h => nomatch h
  | fuel + 1, cs, left, items, h => by
    simp only [readItems, Option.bind_eq_bind, Option.bind_eq_some_iff, Prod.exists] at h
    obtain ⟨item, rest, hv, h⟩ := h
    obtain ⟨body, hbody, rfl⟩ := spelling_of_readValue fuel hv
    obtain ⟨after, ha, hrest⟩ := exists_blanks rest
    split at h
    · next rest' he =>
      simp only [Option.bind_eq_some_iff, Prod.exists] at h
      obtain ⟨items, left', hi, h⟩ := h
      cases h
      obtain ⟨before, hb, hrest'⟩ := exists_blanks rest'
      obtain ⟨tail, htail, hi⟩ := items_of_readItems fuel hi
      rw [hrest, he, hrest', hi]
      exact ⟨_, .next hbody ha hb htail, by simp⟩
    · next he =>
      cases h
      rw [hrest, he]
      exact ⟨_, .last hbody ha, by simp⟩
    · cases h

theorem members_of_readMembers : ∀ (fuel : Nat) {cs left : List Char}
    {members : List (Option String × Json)}, readMembers fuel cs = some (members, left) →
      ∃ body, Members members body ∧ cs = body ++ left
  | 0, _, _, _, h => nomatch h
  | fuel + 1, cs, left, members, h => by
    unfold readMembers at h
    split at h
    · simp only [Option.bind_eq_bind, Option.bind_eq_some_iff, Prod.exists] at h
      obtain ⟨key, rest, hk, h⟩ := h
      obtain ⟨name, hname, hcs⟩ := quoted_of_readString hk
      split at h
      · next rest' hcolon =>
        obtain ⟨around, hc, hrest⟩ := exists_blanks_of_skipSpace hcolon
        simp only [Option.bind_eq_some_iff, Prod.exists] at h
        obtain ⟨value, left', hv, h⟩ := h
        obtain ⟨body, hbody, hvalue⟩ := spelling_of_readValue fuel hv
        obtain ⟨before, hb, hrest'⟩ := exists_blanks_of_skipSpace hvalue
        split at h
        · next rest'' hcomma =>
          obtain ⟨after, ha, hleft⟩ := exists_blanks_of_skipSpace hcomma
          simp only [Option.bind_eq_some_iff, Prod.exists] at h
          obtain ⟨members, left'', hm, h⟩ := h
          cases h
          obtain ⟨tail, htail, hm⟩ := members_of_readMembers fuel hm
          obtain ⟨blanks, hn, hrest''⟩ := exists_blanks_of_skipSpace hm
          rw [hcs, hrest, hrest', hleft, hrest'']
          exact ⟨_, .next hname hc hb hbody ha hn htail, by simp⟩
        · next hbrace =>
          cases h
          obtain ⟨after, ha, hleft⟩ := exists_blanks_of_skipSpace hbrace
          rw [hcs, hrest, hrest', hleft]
          exact ⟨_, .last hname hc hb hbody ha, by simp⟩
        · cases h
      · cases h
    · cases h

end

/-! ### Texts -/

/-- A text reads as a value if and only if it spells the value. -/
theorem read?_eq_some_iff {text : String} {value : Json} :
    read? text = some value ↔ Spells text value := by
  unfold read? readChars
  constructor
  · intro h
    split at h
    · next v rest hv =>
      split at h
      · next he =>
        cases h
        obtain ⟨body, hbody, hcs⟩ := spelling_of_readValue _ hv
        obtain ⟨before, hb, ht⟩ := exists_blanks_of_skipSpace hcs
        obtain ⟨after, ha, hrest⟩ := exists_blanks rest
        rw [List.isEmpty_iff.mp he, List.append_nil] at hrest
        exact ⟨hb, hbody, hrest ▸ ha, ht⟩
      · cases h
    · cases h
  · rintro ⟨hb, h, ha, ht⟩
    have hclose := closes_blanks ha closes_nil
    rw [List.append_nil] at hclose
    rw [ht, skipSpace_append hb, h.skipSpace, h.readValue _ _ hclose (by simp; omega)]
    simp [skipSpace_blanks ha]

/-- A text spells one value at most. -/
theorem Spells.unique {text : String} {v w : Json} (hv : Spells text v) (hw : Spells text w) :
    v = w := by
  rw [← read?_eq_some_iff] at hv hw
  rw [hv] at hw
  exact Option.some.inj hw

end ScanGate.Json
