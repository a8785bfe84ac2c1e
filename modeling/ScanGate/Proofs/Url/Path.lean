import ScanGate.Proofs.Percent
import ScanGate.Proofs.Text.Split
import ScanGate.Url

/-! Paths that are read as they stand. Their segments hold no slash, no dots to be resolved and
nothing to be escaped; an encoded name is such a segment unless it is one dot or two. -/
namespace ScanGate

namespace Text

variable {p : Char → Bool} {c : Char}

/-- Texts behind separators, none of them with a separator in it. -/
theorem splitAt_flatMap_started (hc : p c = true) {text : List Char} {texts : List (List Char)}
    (h : ∀ t ∈ text :: texts, ∀ x ∈ t, p x = false) :
    splitAt p (text ++ texts.flatMap (c :: ·)) = text :: texts := by
  induction texts generalizing text with
  | nil => simpa using splitAt_of_forall (h text List.mem_cons_self)
  | cons next texts ih =>
    obtain ⟨htext, hrest⟩ := List.forall_mem_cons.mp h
    rw [List.flatMap_cons, List.cons_append, splitAt_append_cons hc, splitAt_of_forall htext,
      ih hrest]
    rfl

/-- What stands before the first of them is split on its own. -/
theorem splitAt_append_started (hc : p c = true) (xs : List Char) {texts : List (List Char)}
    (h : ∀ t ∈ texts, ∀ x ∈ t, p x = false) :
    splitAt p (xs ++ texts.flatMap (c :: ·)) = splitAt p xs ++ texts := by
  cases texts with
  | nil => simp
  | cons text texts =>
    rw [List.flatMap_cons, List.cons_append, splitAt_append_cons hc, splitAt_flatMap_started hc h]

end Text

namespace Url.Path

variable {cs ds : List Char} {segments : Path}

/-! ### Dots -/

theorem eq_of_isDot (h : isDot cs = true) :
    cs = ['.'] ∨ cs = ['%', '2', 'e'] ∨ cs = ['%', '2', 'E'] := by
  have hpoint {c : Char} (hc : c.toLower = '.') : c = '.' := by
    simpa using Text.of_toLower_eq (p := (· == '.')) (by decide) (by decide) hc
  have hpercent {c : Char} (hc : c.toLower = '%') : c = '%' := by
    simpa using Text.of_toLower_eq (p := (· == '%')) (by decide) (by decide) hc
  have htwo {c : Char} (hc : c.toLower = '2') : c = '2' := by
    simpa using Text.of_toLower_eq (p := (· == '2')) (by decide) (by decide) hc
  have he {c : Char} (hc : c.toLower = 'e') : c = 'e' ∨ c = 'E' := by
    simpa using Text.of_toLower_eq (p := fun c => c == 'e' || c == 'E') (by decide) (by decide) hc
  simp only [isDot, Bool.or_eq_true, beq_iff_eq] at h
  obtain h | h := h
  · obtain ⟨a, rfl, ha⟩ := List.map_eq_singleton_iff.mp h
    exact .inl (by rw [hpoint ha])
  · obtain ⟨a, rest, rfl, ha, h⟩ := List.map_eq_cons_iff.mp h
    obtain ⟨b, rest, rfl, hb, h⟩ := List.map_eq_cons_iff.mp h
    obtain ⟨c, rfl, hc⟩ := List.map_eq_singleton_iff.mp h
    rw [hpercent ha, htwo hb]
    exact .inr ((he hc).imp (fun hc => by rw [hc]) fun hc => by rw [hc])

theorem exists_dots_of_isDoubleDot (h : isDoubleDot cs = true) :
    ∃ xs ys, cs = xs ++ ys ∧ isDot xs = true ∧ isDot ys = true := by
  simp only [isDoubleDot, Bool.or_eq_true, beq_iff_eq] at h
  have hdots : ∃ ds ∈ [['.'], ['%', '2', 'e']], ∃ es ∈ [['.'], ['%', '2', 'e']],
      cs.map Char.toLower = ds ++ es := by
    obtain ((h | h) | h) | h := h
    · exact ⟨['.'], by simp, ['.'], by simp, h⟩
    · exact ⟨['.'], by simp, ['%', '2', 'e'], by simp, h⟩
    · exact ⟨['%', '2', 'e'], by simp, ['.'], by simp, h⟩
    · exact ⟨['%', '2', 'e'], by simp, ['%', '2', 'e'], by simp, h⟩
  obtain ⟨ds, hds, es, hes, hmap⟩ := hdots
  obtain ⟨xs, ys, rfl, rfl, rfl⟩ := List.map_eq_append_iff.mp hmap
  refine ⟨xs, ys, rfl, ?_, ?_⟩
  · simpa [isDot] using hds
  · simpa [isDot] using hes

/-- A dot has a point or an escape in it. -/
theorem isDot_eq_false (h : ∀ c ∈ cs, c ≠ '.' ∧ c ≠ '%') : isDot cs = false := by
  rw [Bool.eq_false_iff]
  intro hdot
  obtain rfl | rfl | rfl := eq_of_isDot hdot
  · exact (h '.' List.mem_cons_self).1 rfl
  · exact (h '%' List.mem_cons_self).2 rfl
  · exact (h '%' List.mem_cons_self).2 rfl

theorem isDoubleDot_eq_false (h : ∀ c ∈ cs, c ≠ '.' ∧ c ≠ '%') : isDoubleDot cs = false := by
  rw [Bool.eq_false_iff]
  intro hdots
  obtain ⟨xs, ys, rfl, hxs, -⟩ := exists_dots_of_isDoubleDot hdots
  have hnot := isDot_eq_false fun c hc => h c (List.mem_append_left ys hc)
  exact absurd (hnot.symm.trans hxs) (by decide)

/-- The byte of a point. -/
def point : UInt8 := 46

theorem decodeBytes_dot_append (h : isDot cs = true) (ds : List Char) :
    Percent.decodeBytes (cs ++ ds) = point :: Percent.decodeBytes ds := by
  obtain rfl | rfl | rfl := eq_of_isDot h
  · have hbyte : Text.encodeUtf8 (String.singleton '.') = [point] := by decide +kernel
    change Percent.decodeBytes ('.' :: ds) = _
    rw [Percent.decodeBytes_cons_of_ne (by decide), hbyte]
    rfl
  · rfl
  · rfl

theorem decodeBytes_encode (s : String) :
    Percent.decodeBytes (Percent.encode Percent.isUnreserved s) = Text.encodeUtf8 s :=
  Percent.decodeBytes_encodeBytes (by decide) _

theorem not_isDot_encode {s : String} (h : s ≠ ".") :
    isDot (Percent.encode Percent.isUnreserved s) = false := by
  rw [Bool.eq_false_iff]
  intro hdot
  have hbytes := decodeBytes_encode s
  have hpoint := decodeBytes_dot_append hdot []
  rw [List.append_nil, hbytes] at hpoint
  have hbyte : Text.encodeUtf8 "." = [point] := by decide +kernel
  exact h (Text.toUTF8_toList_inj.mp (hpoint.trans hbyte.symm))

theorem not_isDoubleDot_encode {s : String} (h : s ≠ "..") :
    isDoubleDot (Percent.encode Percent.isUnreserved s) = false := by
  rw [Bool.eq_false_iff]
  intro hdots
  have hbytes := decodeBytes_encode s
  obtain ⟨xs, ys, heq, hxs, hys⟩ := exists_dots_of_isDoubleDot hdots
  have hpoints := decodeBytes_dot_append hys []
  rw [List.append_nil] at hpoints
  rw [heq, decodeBytes_dot_append hxs, hpoints] at hbytes
  have htwo : Text.encodeUtf8 ".." = [point, point] := by decide +kernel
  exact h (Text.toUTF8_toList_inj.mp (hbytes.symm.trans htwo.symm))

/-! ### Segments -/

/-- A segment that is read and written as it stands. -/
def isPlain (cs : List Char) : Bool :=
  cs.all (fun c => decide (c.toNat < 128) && keep c && c != '/' && c != '\\') &&
    !isDot cs && !isDoubleDot cs

theorem isPlain_iff : isPlain cs = true ↔
    (∀ c ∈ cs, c.toNat < 128 ∧ keep c = true ∧ c ≠ '/' ∧ c ≠ '\\') ∧
      isDot cs = false ∧ isDoubleDot cs = false := by
  simp only [isPlain, Bool.and_eq_true, Bool.not_eq_true', List.all_eq_true, decide_eq_true_eq,
    bne_iff_ne, ne_eq, and_assoc]

theorem resolve_of_plain {done : Path} (hne : segments ≠ [])
    (h : ∀ s ∈ segments, isPlain s = true) :
    resolve false done segments = done.reverse ++ segments := by
  induction segments generalizing done with
  | nil => exact absurd rfl hne
  | cons segment segments ih =>
    obtain ⟨hsegment, hsegments⟩ := List.forall_mem_cons.mp h
    obtain ⟨-, hdot, hdots⟩ := isPlain_iff.mp hsegment
    cases segments with
    | nil => simp [resolve, push, hdot, hdots]
    | cons next segments =>
      simp only [resolve, hdot, hdots, Bool.false_eq_true, if_false]
      rw [ih (List.cons_ne_nil _ _) hsegments]
      simp [push]

/-- A path with these segments, as it is written. -/
def ofSegments (segments : Path) : List Char := segments.flatMap ('/' :: ·)

theorem text_of_plain (h : ∀ s ∈ segments, isPlain s = true) :
    text segments = String.ofList (ofSegments segments) := by
  rw [text, ofSegments]
  induction segments with
  | nil => rfl
  | cons segment segments ih =>
    obtain ⟨hsegment, hsegments⟩ := List.forall_mem_cons.mp h
    obtain ⟨hkept, -, -⟩ := isPlain_iff.mp hsegment
    have hencode : Percent.encode keep (String.ofList segment) = segment :=
      Percent.encode_of_forall fun c hc => ⟨(hkept c hc).1, (hkept c hc).2.1⟩
    rw [List.map_cons, String.join_cons, ih hsegments, hencode]
    apply String.toList_inj.mp
    simp

/-- A path of plain segments is read as it is written. -/
theorem absolutePath_of_plain (hne : segments ≠ []) (h : ∀ s ∈ segments, isPlain s = true) :
    absolutePath true (ofSegments segments) = String.ofList (ofSegments segments) := by
  cases segments with
  | nil => exact absurd rfl hne
  | cons segment segments =>
    have hslash : ∀ s ∈ segment :: segments, ∀ c ∈ s, isSlash true c = false := by
      intro s hs c hc
      obtain ⟨-, -, hslash, hback⟩ := (isPlain_iff.mp (h s hs)).1 c hc
      simp [isSlash, hslash, hback]
    have hsplit : Text.splitAt (isSlash true) (segment ++ ofSegments segments) =
      segment :: segments := Text.splitAt_flatMap_started (by decide) hslash
    have hstart : ofSegments (segment :: segments) = '/' :: (segment ++ ofSegments segments) := rfl
    have hfirst : (('/' :: (segment ++ ofSegments segments)).head?.any (isSlash true)) = true := rfl
    rw [absolutePath, hstart, if_pos hfirst, List.drop_one, List.tail_cons, ofChars, hsplit,
      resolve_of_plain (List.cons_ne_nil _ _) h, List.reverse_nil, List.nil_append,
      text_of_plain h, hstart]

/-- What stands before plain segments may be resolved away, but these are left. -/
theorem exists_resolve_append_plain {done front : Path} (hne : segments ≠ [])
    (h : ∀ s ∈ segments, isPlain s = true) :
    ∃ before, resolve false done (front ++ segments) = before ++ segments := by
  induction front generalizing done with
  | nil => exact ⟨done.reverse, resolve_of_plain hne h⟩
  | cons s front ih =>
    obtain ⟨next, rest, hrest⟩ :=
      List.exists_cons_of_ne_nil (List.append_ne_nil_of_right_ne_nil front hne)
    rw [List.cons_append, hrest]
    simp only [resolve, ← hrest]
    split
    · exact ih
    · split
      · exact ih
      · exact ih

/-- Plain segments at the end of a path are its last segments when it is read. -/
theorem exists_absolutePath_append_plain (cs : List Char) (hne : segments ≠ [])
    (h : ∀ s ∈ segments, isPlain s = true) :
    ∃ before, Text.splitAt (· == '/') (absolutePath true (cs ++ ofSegments segments)).toList =
      before ++ segments := by
  have hkept : ∀ s ∈ segments, ∀ c ∈ s, c ≠ '/' ∧ c ≠ '\\' := fun s hs c hc =>
    ((isPlain_iff.mp (h s hs)).1 c hc).2.2
  have hslash : ∀ s ∈ segments, ∀ c ∈ s, isSlash true c = false := fun s hs c hc => by
    simp [isSlash, hkept s hs c hc]
  have hbehind (xs : List Char) : Text.splitAt (isSlash true) (xs ++ ofSegments segments) =
      Text.splitAt (isSlash true) xs ++ segments :=
    Text.splitAt_append_started (by decide) xs hslash
  -- The first slash does not count, be it one before the segments or their own.
  have hsplit : ∃ front, Text.splitAt (isSlash true)
      (if (cs ++ ofSegments segments).head?.any (isSlash true) then
        (cs ++ ofSegments segments).drop 1 else cs ++ ofSegments segments) = front ++ segments := by
    cases cs with
    | nil =>
      obtain ⟨first, rest, rfl⟩ := List.exists_cons_of_ne_nil hne
      exact ⟨[], Text.splitAt_flatMap_started (by decide) hslash⟩
    | cons c cs =>
      split
      · exact ⟨_, hbehind cs⟩
      · exact ⟨_, hbehind (c :: cs)⟩
  obtain ⟨front, hfront⟩ := hsplit
  obtain ⟨before, hbefore⟩ : ∃ before, resolve false [] (front ++ segments) = before ++ segments :=
    exists_resolve_append_plain hne h
  refine ⟨Text.splitAt (· == '/') (text before).toList, ?_⟩
  have htext : text (before ++ segments) = text before ++ String.ofList (ofSegments segments) := by
    rw [← text_of_plain h, text, List.map_append, String.join_append]
    rfl
  rw [absolutePath, ofChars, hfront, hbefore, htext, String.toList_append, String.toList_ofList]
  exact Text.splitAt_append_started (by decide) _ fun s hs c hc =>
    beq_eq_false_iff_ne.mpr (hkept s hs c hc).1

theorem forall_mem_ofSegments {P : Char → Prop} (hslash : P '/')
    (h : ∀ s ∈ segments, ∀ c ∈ s, P c) : ∀ c ∈ ofSegments segments, P c := by
  intro c hc
  obtain ⟨s, hs, hc⟩ := List.mem_flatMap.mp hc
  obtain rfl | hc := List.mem_cons.mp hc
  · exact hslash
  · exact h s hs c hc

end Url.Path

end ScanGate
