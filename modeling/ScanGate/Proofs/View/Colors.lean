import Mathlib.Data.List.Forall2
import ScanGate.Proofs.View.Lines

/-! Colours in the text of a view. A painted line is the plain one with two codes put in: one at
the end of words that are always the same, and one before the end of the line or before words
that are. Whatever the painted text is, a code in it stays within it, since no code goes on with
the escape character or with what stands behind the text. So the codes can be left out again, in
one pass; and they come in pairs where the texts of the scan have no escape character. -/
namespace ScanGate

namespace Tint

/-! ### Leaving out the codes -/

/-- What starts a colour, and what ends it. -/
def codes : List (List Char) := [red.start, green.start, yellow.start, stop]

/-- The characters that a code goes on with. -/
def isInner (c : Char) : Bool := codes.any (·.tail.contains c)

/-- Leaves out every code, in one pass from left to right. The number says how much is left of a
code that has begun. -/
def strip : (left : Nat) → List Char → List Char
  | _, [] => []
  | left + 1, _ :: cs => strip left cs
  | 0, c :: cs =>
    if codes.any (·.isPrefixOf (c :: cs)) then strip 4 cs else c :: strip 0 cs

/-- The text without codes. -/
def uncolored (cs : List Char) : List Char := strip 0 cs

variable {xs ys cs code words text tail : List Char} {c : Char} {t : Tint}

theorem start_mem (t : Tint) : t.start ∈ codes := by
  cases t <;> simp [codes]

theorem stop_mem : stop ∈ codes := by simp [codes]

theorem length_of_mem (h : code ∈ codes) : code.length = 5 := by
  have hall : ∀ code ∈ codes, code.length = 5 := by decide
  exact hall code h

theorem head?_of_mem (h : code ∈ codes) : code.head? = some escape := by
  have hall : ∀ code ∈ codes, code.head? = some escape := by decide
  exact hall code h

/-- Whether a code begins here can be seen before the text goes on with something that no code
goes on with. -/
theorem isPrefixOf_append (hcode : code ∈ codes) (hxs : xs ≠ [])
    (hys : ∀ c ∈ ys.head?, isInner c = false) :
    code.isPrefixOf (xs ++ ys) = code.isPrefixOf xs := by
  rw [Bool.eq_iff_iff, List.isPrefixOf_iff_prefix, List.isPrefixOf_iff_prefix]
  refine ⟨fun h => ?_, fun h => h.trans (List.prefix_append xs ys)⟩
  obtain h' | ⟨rest, hrest⟩ := List.prefix_or_prefix_of_prefix h (List.prefix_append xs ys)
  · exact h'
  cases rest with
  | nil => exact ⟨[], by rw [← hrest, List.append_nil, List.append_nil]⟩
  | cons c rest =>
    -- The code would go on with the first character of what comes next.
    obtain ⟨more, hmore⟩ : c :: rest <+: ys := by
      rw [← hrest] at h
      exact (List.prefix_append_right_inj xs).mp h
    have hinner : isInner c = true := by
      refine List.any_eq_true.mpr ⟨code, hcode, List.contains_iff_mem.mpr ?_⟩
      obtain ⟨x, xs, rfl⟩ := List.exists_cons_of_ne_nil hxs
      rw [← hrest]
      simp
    have hnot := hys c (by rw [← hmore]; rfl)
    exact absurd (hnot.symm.trans hinner) (by decide)

theorem strip_append {left : Nat} (hleft : left ≤ xs.length)
    (hys : ∀ c ∈ ys.head?, isInner c = false) :
    strip left (xs ++ ys) = strip left xs ++ strip 0 ys := by
  induction xs generalizing left with
  | nil =>
    obtain rfl : left = 0 := Nat.le_zero.mp hleft
    rfl
  | cons x xs ih =>
    cases left with
    | succ left => exact ih (Nat.le_of_succ_le_succ hleft)
    | zero =>
      have hbegins : (codes.any (·.isPrefixOf (x :: (xs ++ ys)))) =
          codes.any (·.isPrefixOf (x :: xs)) := by
        rw [Bool.eq_iff_iff, List.any_eq_true, List.any_eq_true]
        refine exists_congr fun code => and_congr_right fun hcode => ?_
        rw [← List.cons_append, isPrefixOf_append hcode (List.cons_ne_nil x xs) hys]
      rw [List.cons_append, strip, strip, hbegins]
      split
      · next h =>
        obtain ⟨code, hcode, hprefix⟩ := List.any_eq_true.mp h
        have hlength := (List.isPrefixOf_iff_prefix.mp hprefix).length_le
        rw [length_of_mem hcode, List.length_cons] at hlength
        exact ih (Nat.le_of_succ_le_succ hlength)
      · rw [ih (Nat.zero_le _), List.cons_append]

/-- What is left out up to here is left out on its own. -/
theorem uncolored_append (hys : ∀ c ∈ ys.head?, isInner c = false) :
    uncolored (xs ++ ys) = uncolored xs ++ uncolored ys := strip_append (Nat.zero_le _) hys

theorem uncolored_code (h : code ∈ codes) (cs : List Char) :
    uncolored (code ++ cs) = uncolored cs := by
  simp only [codes, List.mem_cons, List.not_mem_nil, or_false] at h
  obtain rfl | rfl | rfl | rfl := h <;> rfl

/-- Without an escape character there is nothing to be left out. -/
theorem uncolored_append_of_notMem (hxs : escape ∉ xs) (ys : List Char) :
    uncolored (xs ++ ys) = xs ++ uncolored ys := by
  induction xs with
  | nil => rfl
  | cons x xs ih =>
    obtain ⟨hx, hxs⟩ := not_or.mp (mt List.mem_cons.mpr hxs)
    have hnone : ¬ (codes.any (·.isPrefixOf (x :: (xs ++ ys)))) = true := by
      rw [List.any_eq_true]
      rintro ⟨code, hcode, hprefix⟩
      obtain ⟨rest, hrest⟩ := List.head?_eq_some_iff.mp (head?_of_mem hcode)
      rw [hrest, List.isPrefixOf_iff_prefix, List.cons_prefix_cons] at hprefix
      exact hx hprefix.1
    rw [List.cons_append, uncolored, strip, if_neg hnone]
    exact congrArg (x :: ·) (ih hxs)

theorem uncolored_of_notMem (hxs : escape ∉ xs) : uncolored xs = xs := by
  simpa [uncolored, strip] using uncolored_append_of_notMem hxs []

/-! ### Painted lines -/

/-- The second line is the first one with its colours. What is painted stands behind words without
an escape character; at the end of the line, or before something that no code goes on with. -/
inductive Paints (plain : String) : String → Prop
  | same : Paints plain plain
  | painted {colored : String} {words text tail : List Char} (t : Tint)
      (hplain : plain.toList = words ++ text ++ tail)
      (hcolored : colored.toList = words ++ (t.start ++ text ++ stop) ++ tail)
      (hwords : escape ∉ words) (htail : ∀ c ∈ tail.head?, isInner c = false) :
      Paints plain colored

theorem paints_paint (t : Tint) {words tail : String} (hwords : escape ∉ words.toList)
    (htail : ∀ c ∈ tail.toList.head?, isInner c = false) (text : String) :
    Paints (words ++ t.paint false text ++ tail) (words ++ t.paint true text ++ tail) := by
  have hplain : (words ++ t.paint false text ++ tail).toList =
      words.toList ++ text.toList ++ tail.toList := by simp [paint]
  have hcolored : (words ++ t.paint true text ++ tail).toList =
      words.toList ++ (t.start ++ text.toList ++ stop) ++ tail.toList := by simp [paint]
  exact .painted t hplain hcolored hwords htail

theorem Paints.uncolored_eq {plain colored : String} (h : Paints plain colored) :
    uncolored colored.toList = uncolored plain.toList := by
  cases h with
  | same => rfl
  | @painted _ words text tail t hplain hcolored hwords htail =>
    have hstop : ∀ c ∈ (stop ++ tail).head?, isInner c = false := fun c hc => by cases hc; decide
    rw [hplain, hcolored, List.append_assoc, List.append_assoc, List.append_assoc,
      List.append_assoc, uncolored_append_of_notMem hwords, uncolored_append_of_notMem hwords,
      uncolored_code (start_mem t), uncolored_append hstop, uncolored_code stop_mem,
      uncolored_append htail]

/-- The codes of all lines can be left out at once, since no code goes on with a line feed. -/
theorem uncolored_lines {plain colored : List String} (h : List.Forall₂ Paints plain colored) :
    uncolored (colored.flatMap fun line => line.toList ++ ['\n']) =
      uncolored (plain.flatMap fun line => line.toList ++ ['\n']) := by
  induction h with
  | nil => rfl
  | @cons plain colored plains coloreds hline _ ih =>
    have hfeed (rest : List Char) : ∀ c ∈ ('\n' :: rest).head?, isInner c = false :=
      fun c hc => by cases hc; decide
    have hnone : escape ∉ ['\n'] := by decide
    have hplain (rest : List Char) : uncolored ('\n' :: rest) = '\n' :: uncolored rest :=
      uncolored_append_of_notMem hnone rest
    simp only [List.flatMap_cons, List.append_assoc, List.singleton_append]
    rw [uncolored_append (hfeed _), uncolored_append (hfeed _), hplain, hplain,
      hline.uncolored_eq, ih]

/-! ### Pairs of codes -/

/-- A text whose escape characters are those of colours that are started and ended again. -/
inductive Balanced : List Char → Prop
  | nil : Balanced []
  | char {c : Char} {cs : List Char} (hc : c ≠ escape) (h : Balanced cs) : Balanced (c :: cs)
  | painted {text cs : List Char} (t : Tint) (htext : escape ∉ text) (h : Balanced cs) :
      Balanced (t.start ++ text ++ stop ++ cs)

theorem Balanced.append (hxs : Balanced xs) (hys : Balanced ys) : Balanced (xs ++ ys) := by
  induction hxs with
  | nil => exact hys
  | char hc _ ih => exact .char hc ih
  | painted t htext _ ih =>
    rw [List.append_assoc]
    exact .painted t htext ih

theorem balanced_of_notMem (h : escape ∉ cs) : Balanced cs := by
  induction cs with
  | nil => exact .nil
  | cons c cs ih =>
    obtain ⟨hc, hcs⟩ := not_or.mp (mt List.mem_cons.mpr h)
    exact .char (Ne.symm hc) (ih hcs)

theorem Paints.balanced {plain colored : String} (h : Paints plain colored)
    (hplain : escape ∉ plain.toList) : Balanced colored.toList := by
  cases h with
  | same => exact balanced_of_notMem hplain
  | painted t htext hcolored hwords _ =>
    simp only [htext, List.mem_append, not_or] at hplain
    obtain ⟨⟨-, htext⟩, htail⟩ := hplain
    rw [hcolored, List.append_assoc]
    exact (balanced_of_notMem hwords).append (.painted t htext (balanced_of_notMem htail))

theorem balanced_lines {plain colored : List String} (h : List.Forall₂ Paints plain colored)
    (hplain : ∀ line ∈ plain, escape ∉ line.toList) :
    Balanced (colored.flatMap fun line => line.toList ++ ['\n']) := by
  induction h with
  | nil => exact .nil
  | cons hline _ ih =>
    obtain ⟨hfirst, hrest⟩ := List.forall_mem_cons.mp hplain
    have hfeed : Balanced ['\n'] := balanced_of_notMem (by decide)
    exact ((hline.balanced hfirst).append hfeed).append (ih hrest)

/-- No code stands before the next start of a colour, or before the end if there is none. -/
def Quiet (cs : List Char) : Prop :=
  ∃ gap rest, cs = gap ++ rest ∧ escape ∉ gap ∧ (rest = [] ∨ ∃ t : Tint, t.start <+: rest)

/-- Every start of a colour is followed by one end, and by no other code before the next start. -/
def Paired (cs : List Char) : Prop :=
  ∀ (t : Tint) before after, cs = before ++ t.start ++ after →
    ∃ text rest, after = text ++ stop ++ rest ∧ escape ∉ text ∧ Quiet rest

theorem Balanced.quiet (h : Balanced cs) : Quiet cs := by
  induction h with
  | nil => exact ⟨[], [], rfl, by simp, .inl rfl⟩
  | @char c cs hc _ ih =>
    obtain ⟨gap, rest, rfl, hgap, hrest⟩ := ih
    exact ⟨c :: gap, rest, rfl, List.not_mem_cons_of_ne_of_not_mem hc.symm hgap, hrest⟩
  | @painted text cs t _ _ _ =>
    refine ⟨[], t.start ++ text ++ stop ++ cs, rfl, by simp, .inr ⟨t, text ++ stop ++ cs, ?_⟩⟩
    simp only [List.append_assoc]

/-- What begins with an escape character stands behind everything that has none. -/
theorem exists_of_append_eq {before after : List Char} (hxs : escape ∉ xs)
    (h : xs ++ ys = before ++ escape :: after) :
    ∃ before', before = xs ++ before' ∧ ys = before' ++ escape :: after := by
  obtain ⟨before', hbefore, hys⟩ | ⟨rest, hrest, hys⟩ := List.append_eq_append_iff.mp h
  · exact ⟨before', hbefore, hys⟩
  · cases rest with
    | nil => exact ⟨[], by simpa using hrest.symm, by simpa using hys.symm⟩
    | cons c rest =>
      rw [hrest, ← (List.cons.inj hys).1] at hxs
      simp at hxs

theorem exists_eq_of_mem (h : code ∈ codes) : ∃ inner, code = escape :: inner ∧ escape ∉ inner := by
  simp only [codes, List.mem_cons, List.not_mem_nil, or_false] at h
  obtain rfl | rfl | rfl | rfl := h <;> exact ⟨_, rfl, by decide⟩

theorem Balanced.paired (h : Balanced cs) : Paired cs := by
  induction h with
  | nil =>
    intro t before after h
    cases t <;> simp [start] at h
  | @char c cs hc _ ih =>
    intro t before after h
    obtain ⟨inner, hstart, -⟩ := exists_eq_of_mem (start_mem t)
    cases before with
    | nil =>
      rw [hstart] at h
      exact absurd (List.cons.inj h).1 hc
    | cons b before => exact ih t before after (List.cons.inj h).2
  | @painted text cs first htext hcs ih =>
    intro t before after h
    obtain ⟨opening, hfirst, hopening⟩ := exists_eq_of_mem (start_mem first)
    obtain ⟨inner, hstart, -⟩ := exists_eq_of_mem (start_mem t)
    obtain ⟨closing, hstop, hclosing⟩ := exists_eq_of_mem stop_mem
    have hlength (code : List Char) (hcode : code ∈ codes) : code.length = t.start.length :=
      (length_of_mem hcode).trans (length_of_mem (start_mem t)).symm
    cases before with
    | nil =>
      have hrest : first.start ++ (text ++ stop ++ cs) = t.start ++ after := by
        simpa only [List.append_assoc, List.nil_append] using h
      obtain ⟨-, rfl⟩ := List.append_inj hrest (hlength _ (start_mem first))
      exact ⟨text, cs, rfl, htext, hcs.quiet⟩
    | cons b before =>
      -- It stands behind the text, and as it is not the code there, behind that one too.
      have hrest : (opening ++ text) ++ (stop ++ cs) = before ++ escape :: (inner ++ after) := by
        rw [hfirst, hstart] at h
        simpa using (List.cons.inj h).2
      have hnone : escape ∉ opening ++ text := by simp [hopening, htext]
      obtain ⟨before', -, hbehind⟩ := exists_of_append_eq hnone hrest
      cases before' with
      | nil =>
        have hcode : stop ++ cs = t.start ++ after := by rw [hbehind, hstart]; rfl
        obtain ⟨hcode, -⟩ := List.append_inj hcode (hlength _ stop_mem)
        cases t <;> exact absurd hcode (by decide)
      | cons c before' =>
        rw [hstop] at hbehind
        obtain ⟨before'', -, hbehind⟩ := exists_of_append_eq hclosing (List.cons.inj hbehind).2
        refine ih t before'' after ?_
        rw [hbehind, hstart, List.append_assoc]
        rfl

end Tint

open Tint (Paints escape paints_paint)

/-! ### The lines of the report -/

/-- What is painted up to the end of the line. -/
theorem Tint.paints_end (t : Tint) {words : String} (hwords : escape ∉ words.toList)
    (text : String) : Paints (words ++ t.paint false text) (words ++ t.paint true text) := by
  have hnone : ∀ c ∈ "".toList.head?, isInner c = false := by simp
  simpa using paints_paint t hwords hnone text

theorem forall₂_flatMap {α β : Type} {R : β → β → Prop} {f g : α → List β}
    (h : ∀ a, List.Forall₂ R (f a) (g a)) (as : List α) :
    List.Forall₂ R (as.flatMap f) (as.flatMap g) := by
  have hsame : List.Forall₂ Eq as as := List.forall₂_same.mpr fun _ _ => rfl
  refine List.rel_flatMap hsame ?_
  rintro a _ rfl
  exact h a

/-- Lines without colours. -/
theorem forall₂_same (ls : List String) : List.Forall₂ Paints ls ls :=
  List.forall₂_same.mpr fun _ _ => .same

theorem FindingView.paints (f : FindingView) :
    List.Forall₂ Paints (f.lines false) (f.lines true) := by
  unfold FindingView.lines
  cases f.active with
  | true => exact .cons (Tint.paints_end .red (by decide) _) (forall₂_same _)
  | false => exact .cons (Tint.paints_end .green (by decide) _) .nil

theorem GroupView.paints (g : GroupView) : List.Forall₂ Paints (g.lines false) (g.lines true) :=
  .cons .same (.cons .same (forall₂_flatMap FindingView.paints _))

namespace View

theorem paints_verdict (v : View) :
    List.Forall₂ Paints (v.verdictLines false) (v.verdictLines true) := by
  unfold verdictLines
  cases v.verdict with
  | none => exact .nil
  | some verdict => exact .cons (Tint.paints_end _ (by decide) _) (forall₂_same _)

theorem paints_unversioned (v : View) :
    List.Forall₂ Paints (v.unversionedLines false) (v.unversionedLines true) := by
  unfold unversionedLines
  split
  · exact .nil
  · have hnone : escape ∉ "".toList := by decide
    have htitle (text : String) :
        Paints (Tint.red.paint false text) (Tint.red.paint true text) := by
      simpa using Tint.red.paints_end hnone text
    exact .cons .same (.cons (htitle _) (forall₂_same _))

theorem paints_result (v : View) :
    List.Forall₂ Paints (v.resultLines false) (v.resultLines true) := by
  have hend (rest : String) :
      ∀ c ∈ (" (exit code " ++ rest).toList.head?, Tint.isInner c = false := by
    intro c hc
    rw [String.toList_append] at hc
    cases hc
    decide
  refine .cons .same (.cons ?_ .nil)
  have hwords : escape ∉ "Result: ".toList := by decide
  have hpaints := paints_paint v.outcome.tint hwords
    (hend (toString v.exitCode ++ ")")) v.message
  simpa only [String.append_assoc] using hpaints

/-- The text with colours is the plain one, painted line by line. -/
theorem paints_lines (v : View) : List.Forall₂ Paints (v.lines false) (v.lines true) :=
  List.rel_append (List.rel_append (List.rel_append (List.rel_append (forall₂_same _)
    v.paints_verdict) (forall₂_flatMap GroupView.paints _)) v.paints_unversioned) v.paints_result

end View

/-! ### Texts without an escape character -/

theorem Tint.escape_notMem_append {s t : String} :
    escape ∉ (s ++ t).toList ↔ escape ∉ s.toList ∧ escape ∉ t.toList := by
  rw [String.toList_append, List.mem_append, not_or]

theorem Tint.paint_false (t : Tint) (text : String) : t.paint false text = text := rfl

open Tint (escape_notMem_append paint_false)

/-- The texts that the lines of a finding are made of, but for the waiver. -/
def FindingView.shown (f : FindingView) : List String := [f.cve, f.summary]

def GroupView.shown (g : GroupView) : List String :=
  g.library :: (g.version.toList ++ g.latest.toList ++ g.findings.flatMap FindingView.shown)

def View.shown (v : View) : List String :=
  [v.link, v.status, v.message] ++
    v.verdict.toList.flatMap (fun verdict => [verdict.short, verdict.detailed]) ++
    v.groups.flatMap GroupView.shown ++ v.unversioned

/-- The text of waivers is JSON, in which an escape character is written as an escape. -/
theorem escape_notMem_waivers (ws : WaiverList) : escape ∉ ws.text.toList :=
  fun h => ws.oneLine_text escape h (by decide)

theorem FindingView.escape_notMem {f : FindingView} (h : ∀ s ∈ f.shown, escape ∉ s.toList) :
    ∀ line ∈ f.lines false, escape ∉ line.toList := by
  simp only [shown, List.forall_mem_cons] at h
  obtain ⟨hcve, hsummary, -⟩ := h
  have hcolon : escape ∉ (f.cve ++ ": " ++ f.summary).toList := by
    rw [escape_notMem_append, escape_notMem_append]
    exact ⟨⟨hcve, by decide⟩, hsummary⟩
  unfold lines
  simp only [paint_false]
  cases f.active with
  | false =>
    simp only [Bool.false_eq_true, if_false, List.forall_mem_singleton]
    exact escape_notMem_append.mpr ⟨by decide, escape_notMem_append.mpr ⟨by decide, hcolon⟩⟩
  | true =>
    simp only [if_true, List.forall_mem_cons]
    refine ⟨escape_notMem_append.mpr ⟨by decide, hcolon⟩, ?_⟩
    cases f.suggestion with
    | none => exact List.forall_mem_nil _
    | some ws =>
      simp only [List.forall_mem_cons]
      exact ⟨by decide, escape_notMem_append.mpr ⟨by decide, escape_notMem_waivers ws⟩,
        List.forall_mem_nil _⟩

theorem GroupView.escape_notMem {g : GroupView} (h : ∀ s ∈ g.shown, escape ∉ s.toList) :
    ∀ line ∈ g.lines false, escape ∉ line.toList := by
  simp only [shown, List.forall_mem_cons, List.forall_mem_append, List.forall_mem_flatMap,
    Option.mem_toList] at h
  obtain ⟨hlibrary, ⟨hversion, hlatest⟩, hfindings⟩ := h
  have hversion : escape ∉ (g.version.getD "(no version)").toList := by
    cases hg : g.version with
    | none => decide
    | some version => exact hversion version hg
  unfold lines
  simp only [List.forall_mem_cons, List.forall_mem_flatMap, escape_notMem_append]
  refine ⟨by decide, ⟨⟨⟨⟨by decide, hlibrary⟩, by decide⟩, hversion⟩, ?_⟩,
    fun f hf => FindingView.escape_notMem (hfindings f hf)⟩
  cases hg : g.latest with
  | none => decide
  | some version =>
    simp only [escape_notMem_append]
    exact ⟨⟨by decide, hlatest version hg⟩, by decide⟩

namespace View

theorem escape_notMem_verdict {v : View} (h : ∀ verdict ∈ v.verdict,
    escape ∉ verdict.short.toList ∧ escape ∉ verdict.detailed.toList) :
    ∀ line ∈ v.verdictLines false, escape ∉ line.toList := by
  unfold verdictLines
  cases hv : v.verdict with
  | none => exact List.forall_mem_nil _
  | some verdict =>
    obtain ⟨hshort, hdetailed⟩ := h verdict hv
    simp only [List.forall_mem_cons, paint_false, escape_notMem_append]
    refine ⟨⟨by decide, ?_⟩, ⟨by decide, notMem_toString_nat (by decide) _⟩,
      List.forall_mem_nil _⟩
    split
    · exact hshort
    · simp only [escape_notMem_append]
      exact ⟨⟨hshort, by decide⟩, hdetailed⟩

theorem escape_notMem_unversioned {v : View} (h : ∀ name ∈ v.unversioned, escape ∉ name.toList) :
    ∀ line ∈ v.unversionedLines false, escape ∉ line.toList := by
  unfold unversionedLines
  split
  · exact List.forall_mem_nil _
  · simp only [List.forall_mem_append, List.forall_mem_cons, List.forall_mem_map, paint_false,
      escape_notMem_append]
    exact ⟨⟨⟨by decide, by decide, List.forall_mem_nil _⟩,
      fun name hname => ⟨by decide, h name hname⟩⟩, ⟨by decide, by decide⟩, List.forall_mem_nil _⟩

/-- There is no escape character in the plain lines but in the texts of the scan. -/
theorem escape_notMem_lines {v : View} (h : ∀ s ∈ v.shown, escape ∉ s.toList) :
    ∀ line ∈ v.lines false, escape ∉ line.toList := by
  simp only [shown, List.forall_mem_append, List.forall_mem_cons, List.forall_mem_flatMap,
    Option.mem_toList] at h
  obtain ⟨⟨⟨⟨hlink, hstatus, hmessage, -⟩, hverdict⟩, hgroups⟩, hunversioned⟩ := h
  have hheader : escape ∉ ("BDBA report: " ++ v.link).toList ∧
      escape ∉ ("Scan status: " ++ v.status).toList := by
    simp only [escape_notMem_append]
    exact ⟨⟨by decide, hlink⟩, by decide, hstatus⟩
  have hresult : escape ∉ ("Result: " ++ v.message ++ " (exit code " ++ toString v.exitCode ++
      ")").toList := by
    simp only [escape_notMem_append]
    exact ⟨⟨⟨⟨by decide, hmessage⟩, by decide⟩, notMem_toString_int (by decide) (by decide) _⟩,
      by decide⟩
  unfold lines resultLines
  simp only [List.forall_mem_append, List.forall_mem_cons, List.forall_mem_flatMap, paint_false]
  refine ⟨⟨⟨⟨⟨hheader.1, hheader.2, List.forall_mem_nil _⟩, escape_notMem_verdict ?_⟩, ?_⟩,
    escape_notMem_unversioned hunversioned⟩, by decide, hresult, List.forall_mem_nil _⟩
  · exact fun verdict hv => ⟨(hverdict verdict hv).1, (hverdict verdict hv).2.1⟩
  · exact fun g hg => GroupView.escape_notMem (hgroups g hg)

/-- The colours of a report change nothing else about it: left out again in one pass, the codes
leave what they leave of the plain text, whatever the texts of the scan are. Where these have no
escape character, the plain text has none, every start of a colour is followed by one end before
the next start, and what is left of the text with colours is the plain one. -/
theorem colors_agree (v : View) :
    Tint.uncolored (v.text true).toList = Tint.uncolored (v.text false).toList ∧
    ((∀ s ∈ v.shown, escape ∉ s.toList) →
      escape ∉ (v.text false).toList ∧ Tint.Paired (v.text true).toList ∧
      Tint.uncolored (v.text true).toList = (v.text false).toList) := by
  have hagree : Tint.uncolored (v.text true).toList = Tint.uncolored (v.text false).toList := by
    rw [toList_text, toList_text]
    exact Tint.uncolored_lines v.paints_lines
  refine ⟨hagree, fun h => ?_⟩
  have hlines := escape_notMem_lines h
  have hplain : escape ∉ (v.text false).toList := by
    rw [toList_text, List.mem_flatMap]
    rintro ⟨line, hline, hmem⟩
    obtain hmem | hmem := List.mem_append.mp hmem
    · exact hlines line hline hmem
    · exact absurd hmem (by decide)
  have hpaired : Tint.Paired (v.text true).toList := by
    rw [toList_text]
    exact (Tint.balanced_lines v.paints_lines hlines).paired
  exact ⟨hplain, hpaired, hagree.trans (Tint.uncolored_of_notMem hplain)⟩

/-- A view with an active and a suppressed finding. -/
def paintedView : View where
  product := "4711"
  link := "https://bdba.test/products/4711/"
  status := "ready"
  outcome := .findingsPresent
  exitCode := 1
  message := "Vulnerabilities or unversioned components need review"
  verdict := some ⟨"Vulns", "Vulnerable components found", false⟩
  threshold := 4
  groups := [⟨"libfoo", some "1.0", none, [⟨"CVE-2020-1111", "heap overflow", .zero, true, some []⟩,
    ⟨"CVE-2020-2222", "info leak", .zero, false, none⟩]⟩]
  unversioned := ["busybox"]
  activeCount := 1
  suppressedCount := 1
  unversionedCount := 1

theorem colors_agree_painted : (∀ s ∈ paintedView.shown, escape ∉ s.toList) ∧
    Tint.Paired (paintedView.text true).toList ∧
    Tint.uncolored (paintedView.text true).toList = (paintedView.text false).toList := by
  have h : ∀ s ∈ paintedView.shown, escape ∉ s.toList := by decide
  exact ⟨h, ((colors_agree paintedView).2 h).2⟩

end View

end ScanGate
