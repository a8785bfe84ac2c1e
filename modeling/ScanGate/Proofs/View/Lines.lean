import Mathlib.Data.List.Flatten
import ScanGate.Proofs.Gate.Response
import ScanGate.Proofs.Text.Split
import ScanGate.Proofs.Waivers
import ScanGate.View.Text

/-! The lines of a report as its reader sees them, cut at the line feeds. The report is made
line by line, but a line holds texts of the scan, and a line feed in one of them breaks it
off: what follows it stands on a line of its own. Whoever looks for the waivers and for the
result goes by how lines begin. No line of the report itself misleads, so these readers find
what the gate decided exactly when nothing that is broken off begins like a waiver or like
the result, and the result is not broken off itself. -/
namespace ScanGate

/-! ### Line feeds -/

namespace Text

/-- The lines of a text; the last one is what follows the last line feed. -/
def lines (s : String) : List (List Char) := splitAt (· == '\n') s.toList

/-- What stands before the first line feed. -/
def firstLine (s : String) : List Char := (lines s).headD []

/-- The lines after the first one. -/
def brokenOff (s : String) : List (List Char) := (lines s).tail

theorem lines_eq (s : String) : lines s = firstLine s :: brokenOff s := by
  obtain ⟨part, parts, h⟩ := exists_splitAt_eq (· == '\n') s.toList
  rw [firstLine, brokenOff, lines, h]
  rfl

theorem brokenOff_eq_nil_iff {s : String} : brokenOff s = [] ↔ '\n' ∉ s.toList := by
  rw [brokenOff, lines, tail_splitAt_eq_nil_iff]
  constructor
  · intro h hmem
    simpa using h '\n' hmem
  · intro h c hc
    have hne : c ≠ '\n' := fun heq => h (heq ▸ hc)
    simpa using hne

theorem firstLine_of_notMem {s : String} (h : '\n' ∉ s.toList) : firstLine s = s.toList := by
  have hne : ∀ c ∈ s.toList, (c == '\n') = false := by
    intro c hc
    have hne : c ≠ '\n' := fun heq => h (heq ▸ hc)
    simpa using hne
  rw [firstLine, lines, splitAt_of_forall hne]
  rfl

/-- Words without a line feed begin the first line. -/
theorem firstLine_append {words : List Char} (hwords : '\n' ∉ words) {s : String}
    {rest : List Char} (hs : s.toList = words ++ rest) :
    ∃ part, firstLine s = words ++ part := by
  have hne : ∀ c ∈ words, (c == '\n') = false := by
    intro c hc
    have hne : c ≠ '\n' := fun heq => hwords (heq ▸ hc)
    simpa using hne
  obtain ⟨part, parts, h⟩ := exists_splitAt_eq (· == '\n') rest
  refine ⟨part, ?_⟩
  rw [firstLine, lines, hs, splitAt_append hne h]
  rfl

end Text

/-! ### Waivers and the result -/

namespace View

/-- How a waiver begins that is there to be copied. -/
def waiverStart : List Char := [' ', '\x7b']

/-- How the result begins. -/
def resultStart : List Char := ['R', 'e', 's', 'u', 'l', 't', ':', ' ']

/-- How the result ends. -/
def resultEnd (v : View) : List Char := ("(exit code " ++ toString v.exitCode ++ ")").toList

/-- The suggestions of the active findings, in order. -/
def suggestions (v : View) : List WaiverList :=
  v.groups.flatMap fun g => g.findings.filterMap fun f => if f.active then f.suggestion else none

/-- Readers of the text find what the gate decided. The lines that begin like a waiver are the
suggestions, in order, and the line before the last line feed, and no other, begins like the
result; it ends with the exit code. -/
structure Faithful (v : View) (text : String) : Prop where
  waivers : (Text.lines text).filter (waiverStart.isPrefixOf ·) =
    v.suggestions.map fun ws => ' ' :: ws.text.toList
  result : ∃ front last, Text.lines text = front ++ [last, []] ∧
    (∀ line ∈ front, ¬ resultStart <+: line) ∧ resultStart <+: last ∧ v.resultEnd <:+ last

/-- Nothing that is broken off a line begins like a waiver or like the result, and the message
of the result is on one line. -/
structure Contained (v : View) : Prop where
  brokenOff : ∀ line ∈ v.lines false, ∀ part ∈ Text.brokenOff line,
    ¬ waiverStart <+: part ∧ ¬ resultStart <+: part
  message : '\n' ∉ v.message.toList

/-! ### The lines of the report -/

theorem toList_text (colored : Bool) (v : View) : (v.text colored).toList =
    (v.lines colored).flatMap fun line => line.toList ++ ['\n'] := by
  simp [text, String.toList_join, List.flatMap_map]

theorem lines_text (v : View) :
    Text.lines (v.text false) = (v.lines false).flatMap Text.lines ++ [[]] := by
  have htext : (v.text false).toList =
      ((v.lines false).map String.toList).flatMap (· ++ ['\n']) := by
    rw [toList_text, List.flatMap_map]
  rw [Text.lines, htext, Text.splitAt_flatMap_ended (by decide), List.flatMap_map]
  rfl

/-- A line of the report that begins neither like a waiver nor like the result. -/
def Plain (line : String) : Prop :=
  ¬ waiverStart <+: Text.firstLine line ∧ ¬ resultStart <+: Text.firstLine line

/-- How a line begins is up to its first words, if they are long enough. -/
theorem plain_of_words {line : String} {words rest : List Char} (hwords : '\n' ∉ words)
    (hline : line.toList = words ++ rest)
    (hstart : ∀ part, ¬ waiverStart <+: words ++ part ∧ ¬ resultStart <+: words ++ part) :
    Plain line := by
  obtain ⟨part, hpart⟩ := Text.firstLine_append hwords hline
  rw [Plain, hpart]
  exact hstart part

theorem plain_empty : Plain "" := by
  rw [Plain]
  decide

/-- Every other letter begins a line that is neither. -/
theorem plain_append {words : String} {c : Char} (hhead : words.toList.head? = some c)
    (hc : c ≠ '\n' ∧ c ≠ ' ' ∧ c ≠ 'R') (text : String) : Plain (words ++ text) := by
  obtain ⟨hfeed, hblank, hletter⟩ := hc
  obtain ⟨rest, hrest⟩ := List.head?_eq_some_iff.mp hhead
  have hline : (words ++ text).toList = [c] ++ (rest ++ text.toList) := by
    rw [String.toList_append, hrest]
    rfl
  refine plain_of_words (by simpa using hfeed.symm) hline fun part => ?_
  constructor
  · simp [waiverStart, hblank.symm]
  · simp [resultStart, hletter.symm]

/-- What is indented is no waiver, which has one blank before it. -/
theorem plain_indented (text : String) : Plain ("    " ++ text) := by
  have hline : ("    " ++ text).toList = [' ', ' '] ++ ([' ', ' '] ++ text.toList) := by
    rw [String.toList_append]
    rfl
  refine plain_of_words (by decide) hline fun part => ?_
  constructor
  · simp [waiverStart]
  · simp [resultStart]

theorem plain_verdictLines (v : View) : ∀ line ∈ v.verdictLines false, Plain line := by
  unfold verdictLines
  cases v.verdict with
  | none => simp
  | some verdict =>
    simp only [List.forall_mem_cons]
    exact ⟨plain_append (c := 'V') rfl (by decide) _, plain_append (c := 'T') rfl (by decide) _,
      by simp⟩

theorem plain_unversionedLines (v : View) : ∀ line ∈ v.unversionedLines false, Plain line := by
  unfold unversionedLines
  split
  · simp
  · have htitle : Plain ("Components" ++ " with NO version and vulnerabilities:") :=
      plain_append (c := 'C') rfl (by decide) _
    simp only [List.forall_mem_append, List.forall_mem_cons, List.forall_mem_map]
    exact ⟨⟨⟨plain_empty, htitle, by simp⟩, fun name _ => plain_indented name⟩,
      plain_append (c := 'P') rfl (by decide) _, by simp⟩

theorem plain_component (g : GroupView) (text : String) :
    Plain ("Component: " ++ g.library ++ " " ++ g.version.getD "(no version)" ++ text) := by
  simp only [String.append_assoc]
  exact plain_append (c := 'C') rfl (by decide) _

theorem plain_explanation : Plain "Exclude this finding in all current paths using:" := by
  have hplain : Plain ("Exclude" ++ " this finding in all current paths using:") :=
    plain_append (c := 'E') rfl (by decide) _
  exact hplain

/-- The result without the empty line before it. -/
def resultLine (v : View) : String :=
  "Result: " ++ v.message ++ " (exit code " ++ toString v.exitCode ++ ")"

/-- The lines before the result. -/
def body (v : View) : List String :=
  ["BDBA report: " ++ v.link, "Scan status: " ++ v.status] ++ v.verdictLines false ++
    v.groups.flatMap (·.lines false) ++ v.unversionedLines false ++ [""]

theorem lines_eq (v : View) : v.lines false = v.body ++ [v.resultLine] := by
  simp [lines, resultLines, body, resultLine, Tint.paint]

/-! ### Waivers at the start of lines -/

theorem waiver_text_eq (ws : WaiverList) : ∃ rest, ws.text.toList = '\x7b' :: rest :=
  ⟨_, String.toList_ofList⟩

theorem feed_notMem_text (ws : WaiverList) : '\n' ∉ ws.text.toList :=
  fun h => ws.oneLine_text '\n' h (by decide)

/-- A list of waivers is on one line, with a blank before it. -/
theorem firstLine_waiver (ws : WaiverList) :
    Text.firstLine (" " ++ ws.text) = ' ' :: ws.text.toList := by
  have hline : (" " ++ ws.text).toList = ' ' :: ws.text.toList := by
    rw [String.toList_append]
    rfl
  have hfeed : '\n' ∉ (" " ++ ws.text).toList := by
    rw [hline, List.mem_cons, not_or]
    exact ⟨by decide, feed_notMem_text ws⟩
  rw [Text.firstLine_of_notMem hfeed, hline]

/-- The lines that begin like a waiver, of those that are not broken off. -/
def waiverLines (ls : List String) : List (List Char) :=
  (ls.map Text.firstLine).filter (waiverStart.isPrefixOf ·)

theorem waiverLines_append (ls ls' : List String) :
    waiverLines (ls ++ ls') = waiverLines ls ++ waiverLines ls' := by
  simp [waiverLines]

theorem waiverLines_flatMap {α : Type} (f : α → List String) (xs : List α) :
    waiverLines (xs.flatMap f) = xs.flatMap fun x => waiverLines (f x) := by
  simp [waiverLines, List.map_flatMap, List.filter_flatMap]

theorem waiverLines_of_plain {ls : List String} (h : ∀ line ∈ ls, Plain line) :
    waiverLines ls = [] := by
  rw [waiverLines, List.filter_eq_nil_iff, List.forall_mem_map]
  intro line hline
  rw [List.isPrefixOf_iff_prefix]
  exact (h line hline).1

theorem waiverLines_cons_of_plain {line : String} (h : Plain line) (ls : List String) :
    waiverLines (line :: ls) = waiverLines ls := by
  have hline : waiverLines [line] = [] := waiverLines_of_plain (by simpa using h)
  rw [← List.singleton_append, waiverLines_append, hline, List.nil_append]

theorem waiverLines_waiver (ws : WaiverList) :
    waiverLines [" " ++ ws.text] = [' ' :: ws.text.toList] := by
  obtain ⟨rest, hrest⟩ := waiver_text_eq ws
  have hstart : waiverStart <+: ' ' :: ws.text.toList := by
    rw [hrest]
    exact ⟨rest, rfl⟩
  have hstart : waiverStart.isPrefixOf (' ' :: ws.text.toList) = true :=
    List.isPrefixOf_iff_prefix.mpr hstart
  rw [waiverLines, List.map_singleton, firstLine_waiver, List.filter_singleton, hstart]
  rfl

theorem waiverLines_finding (f : FindingView) : waiverLines (f.lines false) =
    (if f.active then f.suggestion else none).toList.map fun ws => ' ' :: ws.text.toList := by
  unfold FindingView.lines
  cases f.active with
  | false => exact waiverLines_cons_of_plain (plain_indented _) []
  | true =>
    refine (waiverLines_cons_of_plain (plain_indented _) _).trans ?_
    cases f.suggestion with
    | none => rfl
    | some ws => exact (waiverLines_cons_of_plain plain_explanation _).trans (waiverLines_waiver ws)

theorem waiverLines_group (g : GroupView) : waiverLines (g.lines false) =
    (g.findings.filterMap fun f => if f.active then f.suggestion else none).map
      fun ws => ' ' :: ws.text.toList := by
  unfold GroupView.lines
  rw [waiverLines_cons_of_plain plain_empty, waiverLines_cons_of_plain (plain_component g _),
    waiverLines_flatMap, List.filterMap_eq_flatMap_toList, List.map_flatMap]
  congr 1
  funext f
  exact waiverLines_finding f

/-- The suggestions of the active findings, each with its blank. -/
def suggestionLines (v : View) : List (List Char) :=
  v.suggestions.map fun ws => ' ' :: ws.text.toList

theorem firstLine_resultLine (v : View) : resultStart <+: Text.firstLine v.resultLine := by
  have hline : v.resultLine.toList = resultStart ++
      (v.message ++ " (exit code " ++ toString v.exitCode ++ ")").toList := by
    simp only [resultLine, String.append_assoc]
    rw [String.toList_append]
    rfl
  obtain ⟨part, hpart⟩ := Text.firstLine_append (by decide) hline
  rw [hpart]
  exact List.prefix_append _ _

theorem waiverLines_lines (v : View) : waiverLines (v.lines false) = v.suggestionLines := by
  have hheader : waiverLines ["BDBA report: " ++ v.link, "Scan status: " ++ v.status] = [] :=
    waiverLines_of_plain (by
      simp only [List.forall_mem_cons]
      exact ⟨plain_append (c := 'B') rfl (by decide) _, plain_append (c := 'S') rfl (by decide) _,
        by simp⟩)
  have hgroups : waiverLines (v.groups.flatMap (·.lines false)) = v.suggestionLines := by
    rw [waiverLines_flatMap, suggestionLines, suggestions, List.map_flatMap]
    congr 1
    funext g
    exact waiverLines_group g
  have hempty : waiverLines [""] = [] := waiverLines_cons_of_plain plain_empty []
  have hresult : waiverLines [v.resultLine] = [] := by
    obtain ⟨part, hpart⟩ := v.firstLine_resultLine
    rw [waiverLines, List.map_singleton, ← hpart]
    rfl
  simp only [lines_eq, body, waiverLines_append, hheader, hgroups, hempty, hresult,
    waiverLines_of_plain (plain_verdictLines v), waiverLines_of_plain (plain_unversionedLines v),
    List.nil_append, List.append_nil]

/-! ### The result at the start of a line -/

theorem not_result_finding (f : FindingView) :
    ∀ line ∈ f.lines false, ¬ resultStart <+: Text.firstLine line := by
  unfold FindingView.lines
  cases f.active with
  | false => simpa using (plain_indented _).2
  | true =>
    cases f.suggestion with
    | none => simpa using (plain_indented _).2
    | some ws =>
      have hwaiver : ¬ resultStart <+: Text.firstLine (" " ++ ws.text) := by
        rw [firstLine_waiver]
        simp [resultStart]
      simpa using ⟨(plain_indented _).2, plain_explanation.2, hwaiver⟩

theorem not_result_group (g : GroupView) :
    ∀ line ∈ g.lines false, ¬ resultStart <+: Text.firstLine line := by
  unfold GroupView.lines
  simp only [List.forall_mem_cons, List.forall_mem_flatMap]
  exact ⟨plain_empty.2, (plain_component g _).2, fun f _ => not_result_finding f⟩

theorem not_result_body (v : View) :
    ∀ line ∈ v.body, ¬ resultStart <+: Text.firstLine line := by
  unfold body
  simp only [List.forall_mem_append, List.forall_mem_cons, List.forall_mem_flatMap]
  refine ⟨⟨⟨⟨⟨?_, ?_, by simp⟩, fun line h => (plain_verdictLines v line h).2⟩,
    fun g _ => not_result_group g⟩, fun line h => (plain_unversionedLines v line h).2⟩,
    plain_empty.2, by simp⟩
  · exact (plain_append (c := 'B') rfl (by decide) _).2
  · exact (plain_append (c := 'S') rfl (by decide) _).2

/-! ### What is broken off -/

/-- More lines begin in some way than their first parts exactly when something that is broken
off does. -/
theorem filter_lines_eq_iff {p : List Char → Bool} {ls : List String} :
    (ls.flatMap Text.lines).filter p = (ls.map Text.firstLine).filter p ↔
      ∀ line ∈ ls, ∀ part ∈ Text.brokenOff line, ¬ p part = true := by
  have hcount : (ls.flatMap Text.lines).countP p =
      (ls.map Text.firstLine).countP p + (ls.flatMap Text.brokenOff).countP p := by
    induction ls with
    | nil => rfl
    | cons line ls ih =>
      simp only [List.flatMap_cons, List.map_cons, Text.lines_eq, List.countP_append,
        List.countP_cons] at ih ⊢
      omega
  constructor
  · intro h
    have hlength := congrArg List.length h
    rw [← List.countP_eq_length_filter, ← List.countP_eq_length_filter] at hlength
    have hnone : (ls.flatMap Text.brokenOff).countP p = 0 := by omega
    rwa [List.countP_eq_zero, List.forall_mem_flatMap] at hnone
  · intro h
    clear hcount
    induction ls with
    | nil => rfl
    | cons line ls ih =>
      obtain ⟨hline, hls⟩ := List.forall_mem_cons.mp h
      have hnone : (Text.brokenOff line).filter p = [] := List.filter_eq_nil_iff.mpr hline
      rw [List.flatMap_cons, List.filter_append, ih hls, Text.lines_eq, List.map_cons,
        List.filter_cons, List.filter_cons, hnone]
      split <;> rfl

theorem waivers_iff (v : View) :
    (Text.lines (v.text false)).filter (waiverStart.isPrefixOf ·) = v.suggestionLines ↔
      ∀ line ∈ v.lines false, ∀ part ∈ Text.brokenOff line, ¬ waiverStart <+: part := by
  have hlast : ([[]] : List (List Char)).filter (waiverStart.isPrefixOf ·) = [] := rfl
  rw [lines_text, List.filter_append, hlast, List.append_nil, ← waiverLines_lines, waiverLines,
    filter_lines_eq_iff]
  simp only [List.isPrefixOf_iff_prefix]

/-- A number is written with digits, behind a sign if it is negative. -/
theorem notMem_toString_nat {c : Char} (hc : c.isDigit = false) (n : Nat) :
    c ∉ (toString n).toList := by
  intro h
  rw [Nat.toString_eq_repr, Nat.toList_repr] at h
  have hdigit := Nat.isDigit_of_mem_toDigits (by decide) (by decide) h
  exact absurd (hc.symm.trans hdigit) (by decide)

theorem notMem_toString_int {c : Char} (hc : c.isDigit = false) (hsign : c ≠ '-') (n : Int) :
    c ∉ (toString n).toList := by
  cases n with
  | ofNat n => exact notMem_toString_nat hc n
  | negSucc n =>
    have htext : (toString (Int.negSucc n)).toList = '-' :: (toString (n + 1)).toList := by
      change ("-" ++ toString (n + 1)).toList = _
      rw [String.toList_append]
      rfl
    rw [htext, List.mem_cons, not_or]
    exact ⟨hsign, notMem_toString_nat hc _⟩

/-- The result is on one line when its message is. -/
theorem brokenOff_resultLine_eq_nil_iff (v : View) :
    Text.brokenOff v.resultLine = [] ↔ '\n' ∉ v.message.toList := by
  have hstart : '\n' ∉ "Result: ".toList := by decide
  have hopen : '\n' ∉ " (exit code ".toList := by decide
  have hclose : '\n' ∉ ")".toList := by decide
  rw [Text.brokenOff_eq_nil_iff, resultLine]
  simp only [String.toList_append, List.mem_append, hstart, hopen, hclose,
    notMem_toString_int (by decide : '\n'.isDigit = false) (by decide) v.exitCode, false_or,
    or_false]

theorem lines_text_eq (v : View) : Text.lines (v.text false) =
    v.body.flatMap Text.lines ++ Text.firstLine v.resultLine ::
      (Text.brokenOff v.resultLine ++ [[]]) := by
  rw [lines_text, lines_eq, List.flatMap_append, List.flatMap_singleton, Text.lines_eq,
    List.append_assoc]
  rfl

/-- The last line is the result, and the only one, when nothing that is broken off begins like
one and the message is whole. -/
theorem result_iff (v : View) :
    (∃ front last, Text.lines (v.text false) = front ++ [last, []] ∧
      (∀ line ∈ front, ¬ resultStart <+: line) ∧ resultStart <+: last ∧ v.resultEnd <:+ last) ↔
    (∀ line ∈ v.lines false, ∀ part ∈ Text.brokenOff line, ¬ resultStart <+: part) ∧
      '\n' ∉ v.message.toList := by
  rw [← brokenOff_resultLine_eq_nil_iff, lines_text_eq, lines_eq]
  simp only [List.forall_mem_append, List.forall_mem_singleton]
  constructor
  · rintro ⟨front, last, heq, hfront, -, -⟩
    have heq : front ++ [last] =
        v.body.flatMap Text.lines ++ Text.firstLine v.resultLine ::
          Text.brokenOff v.resultLine := by
      have hends : (front ++ [last]) ++ [[]] = (v.body.flatMap Text.lines ++
          Text.firstLine v.resultLine :: Text.brokenOff v.resultLine) ++ [[]] := by
        simpa using heq.symm
      exact List.append_cancel_right hends
    obtain hnone | ⟨init, part, hpart⟩ := List.eq_nil_or_concat (Text.brokenOff v.resultLine)
    · rw [hnone] at heq ⊢
      obtain ⟨rfl, -⟩ := List.append_inj' heq rfl
      refine ⟨⟨fun line hline part hpart => hfront part ?_, by simp⟩, rfl⟩
      refine List.mem_flatMap.mpr ⟨line, hline, ?_⟩
      rw [Text.lines_eq]
      exact List.mem_cons_of_mem _ hpart
    · -- Then the result would be one of the lines before the last.
      rw [hpart, List.concat_eq_append, ← List.cons_append, ← List.append_assoc] at heq
      obtain ⟨rfl, -⟩ := List.append_inj' heq rfl
      exact absurd v.firstLine_resultLine (hfront _ (by simp))
  · rintro ⟨⟨hbody, -⟩, hnone⟩
    refine ⟨v.body.flatMap Text.lines, Text.firstLine v.resultLine, by rw [hnone]; rfl, ?_,
      v.firstLine_resultLine, ?_⟩
    · rw [List.forall_mem_flatMap]
      intro line hline
      rw [Text.lines_eq, List.forall_mem_cons]
      exact ⟨not_result_body v line hline, hbody line hline⟩
    · rw [Text.firstLine_of_notMem (Text.brokenOff_eq_nil_iff.mp hnone)]
      refine ⟨("Result: " ++ v.message ++ " ").toList, ?_⟩
      rw [resultEnd, ← String.toList_append, resultLine]
      simp only [String.append_assoc]
      rfl

/-- Readers of the text without colours find what the gate decided, its waivers and its result,
exactly when no text of the scan breaks its line off in front of something that begins like a
waiver or like the result, and the message of the result has no line feed. -/
theorem faithful_iff (v : View) : Faithful v (v.text false) ↔ Contained v := by
  constructor
  · rintro ⟨hwaivers, hresult⟩
    have hwaivers := v.waivers_iff.mp hwaivers
    obtain ⟨hresult, hmessage⟩ := v.result_iff.mp hresult
    exact ⟨fun line hline part hpart =>
      ⟨hwaivers line hline part hpart, hresult line hline part hpart⟩, hmessage⟩
  · rintro ⟨hbroken, hmessage⟩
    refine ⟨v.waivers_iff.mpr fun line hline part hpart => (hbroken line hline part hpart).1, ?_⟩
    exact v.result_iff.mpr
      ⟨fun line hline part hpart => (hbroken line hline part hpart).2, hmessage⟩

/-- A detail of the verdict that goes on with lines of its own. -/
def misleadingDetail : String :=
  "see below\n \x7b\"exceptions\":[]\x7d\nResult: No unexcepted vulnerabilities found (exit code 0)"

/-- The answer of the service for a scan that does not pass. -/
def misleadingDocument : Json :=
  .record [("results", .record [("status", .text "R"), ("summary", .record [("verdict",
    .record [("short", .text "Vulns"), ("detailed", .text misleadingDetail)])])])]

theorem parse_misleadingDocument : Report.parse misleadingDocument.compact =
    .ok ⟨.ready, .vulnerable, misleadingDetail, []⟩ := by
  have hread : Json.read? misleadingDocument.compact = some misleadingDocument := by
    apply Json.read?_compact
    simp only [misleadingDocument, Json.record, Json.text, Json.IsWellFormed,
      Json.wellFormedMembers, List.map_cons, List.map_nil, true_and]
  have hreport : Report.ofJson? misleadingDocument =
    some ⟨.ready, .vulnerable, misleadingDetail, []⟩ := rfl
  rw [Report.parse, hread, Option.bind_some, hreport]

/-- The report on it is no success, and suggests nothing. -/
def misleadingView : View :=
  .ofResponse (Gate.respond { product := ⟨"4711"⟩ } "https://bdba.test/products/4711/"
    ⟨.ready, .vulnerable, misleadingDetail, []⟩ [])

def forgedWaiver : List Char := " \x7b\"exceptions\":[]\x7d".toList

def forgedResult : List Char := "Result: No unexcepted vulnerabilities found (exit code 0)".toList

theorem mem_lines_misleadingView {part : List Char}
    (h : part ∈ [forgedWaiver, forgedResult]) :
    part ∈ Text.lines (misleadingView.text false) := by
  have hverdict : misleadingView.verdictLines false =
    ["Verdict: " ++ ("Vulns" ++ " - " ++ misleadingDetail), "Threshold: CVSS >= 4"] := rfl
  have hlines : Text.lines ("Verdict: " ++ ("Vulns" ++ " - " ++ misleadingDetail)) =
    ["Verdict: Vulns - see below".toList, forgedWaiver, forgedResult] := by decide +kernel
  rw [lines_text]
  refine List.mem_append_left _ (List.mem_flatMap.mpr
    ⟨"Verdict: " ++ ("Vulns" ++ " - " ++ misleadingDetail), ?_, ?_⟩)
  · simp [lines, hverdict]
  · rw [hlines]
    exact List.mem_cons_of_mem _ h

/-- The service's text passes for a waiver to copy and for a result of another exit code. -/
theorem forged_by_detail :
    Report.parse misleadingDocument.compact = .ok ⟨.ready, .vulnerable, misleadingDetail, []⟩ ∧
      misleadingView.suggestions = [] ∧ misleadingView.exitCode = 1 ∧
      forgedWaiver ∈ Text.lines (misleadingView.text false) ∧
      forgedResult ∈ Text.lines (misleadingView.text false) ∧
      ¬ Faithful misleadingView (misleadingView.text false) := by
  have hwaiver : forgedWaiver ∈ Text.lines _ := mem_lines_misleadingView (by simp)
  have hresult : forgedResult ∈ Text.lines _ := mem_lines_misleadingView (by simp)
  refine ⟨parse_misleadingDocument, rfl, rfl, hwaiver, hresult, fun h => ?_⟩
  have hfound := List.mem_filter.mpr ⟨hwaiver, (by decide :
    waiverStart.isPrefixOf forgedWaiver = true)⟩
  rw [h.waivers] at hfound
  exact absurd hfound (by decide)

end View

end ScanGate
