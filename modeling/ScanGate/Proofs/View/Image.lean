import ScanGate.Proofs.Decimal.Layout
import ScanGate.Proofs.Json.Indented
import ScanGate.Proofs.Waivers
import ScanGate.View.Json

/-! The JSON rendering is an image of the view. It is one document and a line feed, and a reader
that insists on every key and takes numbers exactly gets back the view that was drawn. So no
two views have one rendering, and the text of a suggestion is a list of waivers on its own. -/
namespace ScanGate

/-! ### Exact readers -/

namespace Json

/-- The values of an object with exactly these keys in this order. -/
def valuesOf? (keys : List String) : Json → Option (List Json)
  | object members =>
    if members.map (·.1) = keys.map some then some (members.map (·.2)) else none
  | _ => none

def truth? : Json → Option Bool
  | bool value => some value
  | _ => none

def natural? (value : Json) : Option Nat := value.integer?.bind Int.toNat?

theorem valuesOf?_record (keys : List String) (members : List (String × Json)) :
    valuesOf? keys (record members) =
      if members.map (·.1) = keys then some (members.map (·.2)) else none := by
  have hkeys : (members.map fun member => (some member.1, member.2)).map (·.1) = keys.map some ↔
      members.map (·.1) = keys := by
    rw [List.map_map, ← (List.map_injective_iff.mpr (Option.some_injective String)).eq_iff,
      List.map_map]
    rfl
  refine if_congr hkeys ?_ rfl
  rw [List.map_map]
  rfl

theorem natural?_nat (n : Nat) : (nat n).natural? = some n := by
  have h : (nat n).integer? = some (n : Int) := integer?_toString n
  rw [natural?, h, Option.bind_some]
  rfl

theorem isWellFormed_nat (n : Nat) : (nat n).IsWellFormed := isLiteral_toString n

end Json

/-- The outcome of this name. -/
def OutcomeKind.ofName? (name : String) : Option OutcomeKind :=
  [success, findingsPresent, retryLater, fatal].find? (·.name = name)

theorem OutcomeKind.ofName?_name (kind : OutcomeKind) : ofName? kind.name = some kind := by
  cases kind <;> decide

def VerdictView.ofJson? (value : Json) : Option VerdictView := do
  match ← value.valuesOf? ["short", "detailed", "pass"] with
  | [short, detailed, pass] =>
    return { short := ← short.text?, detailed := ← detailed.text?, pass := ← pass.truth? }
  | _ => none

namespace FindingView

/-- The keys of every finding. -/
def keys : List String := ["cve", "summary", "cvss", "status"]

def active? : String → Option Bool
  | "active" => some true
  | "excepted" => some false
  | _ => none

/-- A suggestion is there under its key, or the key is not there. -/
def ofJson? (value : Json) : Option FindingView := do
  match ← (value.valuesOf? keys).or (value.valuesOf? (keys ++ ["suggested_exception"])) with
  | cve :: summary :: score :: status :: suggestion =>
    return {
      cve := ← cve.text?
      summary := ← summary.text?
      score := ← score.nearest?
      active := ← status.text?.bind active?
      suggestion := ← suggestion.head?.mapM WaiverList.ofJson? }
  | _ => none

end FindingView

def GroupView.ofJson? (value : Json) : Option GroupView := do
  match ← value.valuesOf? ["library", "version", "latest_version", "findings"] with
  | [library, version, latest, findings] =>
    return {
      library := ← library.text?
      version := ← Json.optional Json.text? version
      latest := ← Json.optional Json.text? latest
      findings := ← Json.list FindingView.ofJson? findings }
  | _ => none

namespace View

def keys : List String :=
  ["product_id", "product_url", "scan_status", "outcome", "exit_code", "message",
    "backend_verdict", "threshold", "components", "components_without_version", "summary"]

def ofJson? (value : Json) : Option View := do
  match ← value.valuesOf? keys with
  | [product, link, status, outcome, exitCode, message, verdict, threshold, groups, unversioned,
      summary] =>
    match ← summary.valuesOf? ["active", "excepted", "components_without_version"] with
    | [activeCount, suppressedCount, unversionedCount] =>
      return {
        product := ← product.text?
        link := ← link.text?
        status := ← status.text?
        outcome := ← outcome.text?.bind OutcomeKind.ofName?
        exitCode := ← exitCode.integer?
        message := ← message.text?
        verdict := ← Json.optional VerdictView.ofJson? verdict
        threshold := ← threshold.natural?
        groups := ← Json.list GroupView.ofJson? groups
        unversioned := ← Json.list Json.text? unversioned
        activeCount := ← activeCount.natural?
        suppressedCount := ← suppressedCount.natural?
        unversionedCount := ← unversionedCount.natural? }
    | _ => none
  | _ => none

end View

/-! ### Reading back -/

theorem VerdictView.ofJson?_toJson (v : VerdictView) : ofJson? v.toJson = some v := by
  have hvalues : v.toJson.valuesOf? ["short", "detailed", "pass"] =
      some [.text v.short, .text v.detailed, .bool v.pass] := Json.valuesOf?_record _ _
  simp only [ofJson?, hvalues, Option.bind_eq_bind, Option.bind_some]
  rfl

/-- No verdict is `null`. -/
theorem VerdictView.optional_ofJson? (v : Option VerdictView) :
    Json.optional ofJson? (some ((v.map toJson).getD .null)) = some v := by
  cases v with
  | none => rfl
  | some v =>
    have hvalue : v.toJson ≠ .null := fun h => nomatch h
    rw [Option.map_some, Option.getD_some, Json.optional_of_ne_null hvalue, ofJson?_toJson]
    rfl

theorem FindingView.ofJson?_toJson {f : FindingView} (h : f.score.IsFiniteDouble) :
    ofJson? f.toJson = some f := by
  have hvalues : (f.toJson.valuesOf? keys).or
      (f.toJson.valuesOf? (keys ++ ["suggested_exception"])) =
      some ([.text f.cve, .text f.summary, Json.real f.score,
        .text (if f.active then "active" else "excepted")] ++
          (f.suggestion.map WaiverList.toJson).toList) := by
    obtain ⟨cve, summary, score, active, suggestion⟩ := f
    cases suggestion with
    | none => simp [toJson, keys, Json.valuesOf?_record]
    | some ws => simp [toJson, keys, Json.valuesOf?_record]
  have hactive : (Json.text (if f.active then "active" else "excepted")).text?.bind active? =
      some f.active := by
    cases f.active <;> rfl
  have hsuggestion : (f.suggestion.map WaiverList.toJson).toList.head?.mapM WaiverList.ofJson? =
      some f.suggestion := by
    rw [Option.head?_toList]
    cases f.suggestion with
    | none => rfl
    | some ws => simp [WaiverList.ofJson?_toJson]
  simp only [ofJson?, hvalues, Option.bind_eq_bind, Option.bind_some, List.cons_append,
    List.nil_append, Json.nearest?_real h, hactive, hsuggestion]
  rfl

theorem FindingView.field?_suggestion (f : FindingView) :
    f.toJson.field? "suggested_exception" = f.suggestion.map WaiverList.toJson := by
  obtain ⟨cve, summary, score, active, suggestion⟩ := f
  cases suggestion <;> simp [toJson, Json.record, Json.field?, Json.member?]

theorem GroupView.ofJson?_toJson {g : GroupView}
    (h : ∀ f ∈ g.findings, f.score.IsFiniteDouble) : ofJson? g.toJson = some g := by
  have hvalues : g.toJson.valuesOf? ["library", "version", "latest_version", "findings"] =
      some [.text g.library, .optionalText g.version, .optionalText g.latest,
        .array (g.findings.map FindingView.toJson)] := Json.valuesOf?_record _ _
  have hfindings : Json.list FindingView.ofJson? (.array (g.findings.map FindingView.toJson)) =
      some g.findings := Json.list_map fun f hf => FindingView.ofJson?_toJson (h f hf)
  simp only [ofJson?, hvalues, hfindings, Json.optional_optionalText, Option.bind_eq_bind,
    Option.bind_some]
  rfl

namespace View

/-- Every score is one of the finite doubles. -/
def HasFiniteScores (v : View) : Prop :=
  ∀ g ∈ v.groups, ∀ f ∈ g.findings, f.score.IsFiniteDouble

variable {v w : View}

theorem ofJson?_toJson (h : v.HasFiniteScores) : ofJson? v.toJson = some v := by
  have hvalues : v.toJson.valuesOf? keys = some [.text v.product, .text v.link, .text v.status,
      .text v.outcome.name, .number (toString v.exitCode), .text v.message,
      (v.verdict.map VerdictView.toJson).getD .null, .nat v.threshold,
      .array (v.groups.map GroupView.toJson), .array (v.unversioned.map Json.text),
      .record [("active", .nat v.activeCount), ("excepted", .nat v.suppressedCount),
        ("components_without_version", .nat v.unversionedCount)]] := Json.valuesOf?_record _ _
  have hcounts : (Json.record [("active", .nat v.activeCount), ("excepted", .nat v.suppressedCount),
      ("components_without_version", .nat v.unversionedCount)]).valuesOf?
        ["active", "excepted", "components_without_version"] =
      some [.nat v.activeCount, .nat v.suppressedCount, .nat v.unversionedCount] :=
    Json.valuesOf?_record _ _
  have houtcome : (Json.text v.outcome.name).text?.bind OutcomeKind.ofName? = some v.outcome :=
    v.outcome.ofName?_name
  have hgroups : Json.list GroupView.ofJson? (.array (v.groups.map GroupView.toJson)) =
      some v.groups := Json.list_map fun g hg => GroupView.ofJson?_toJson (h g hg)
  have hunversioned : Json.list Json.text? (.array (v.unversioned.map Json.text)) =
      some v.unversioned := Json.list_map fun _ _ => rfl
  rw [ofJson?, hvalues, Option.bind_eq_bind, Option.bind_some]
  dsimp only
  rw [hcounts, Option.bind_some]
  simp only [houtcome, hgroups, hunversioned, VerdictView.optional_ofJson?,
    Json.integer?_toString, Json.natural?_nat]
  rfl

end View

/-! ### The text -/

theorem FindingView.isWellFormed_toJson {f : FindingView} (h : f.score.IsFiniteDouble) :
    f.toJson.IsWellFormed := by
  obtain ⟨cve, summary, score, active, suggestion⟩ := f
  cases suggestion with
  | none => exact ⟨trivial, trivial, Json.isWellFormed_real h, trivial, trivial⟩
  | some ws =>
    exact ⟨trivial, trivial, Json.isWellFormed_real h, trivial, ws.isWellFormed_toJson, trivial⟩

theorem GroupView.isWellFormed_toJson {g : GroupView}
    (h : ∀ f ∈ g.findings, f.score.IsFiniteDouble) : g.toJson.IsWellFormed :=
  ⟨trivial, Json.isWellFormed_optionalText _, Json.isWellFormed_optionalText _,
    Json.isWellFormed_map fun f hf => FindingView.isWellFormed_toJson (h f hf), trivial⟩

namespace View

variable {v w : View}

theorem isWellFormed_toJson (h : v.HasFiniteScores) : v.toJson.IsWellFormed := by
  have hverdict : ((v.verdict.map VerdictView.toJson).getD .null).IsWellFormed := by
    cases v.verdict with
    | none => trivial
    | some verdict => exact ⟨trivial, trivial, trivial, trivial⟩
  have hgroups := Json.isWellFormed_map fun g hg => GroupView.isWellFormed_toJson (h g hg)
  have hunversioned : (Json.array (v.unversioned.map Json.text)).IsWellFormed :=
    Json.isWellFormed_map fun _ _ => trivial
  exact ⟨trivial, trivial, trivial, trivial, Json.isLiteral_toString _, trivial, hverdict,
    Json.isWellFormed_nat _, hgroups, hunversioned,
    ⟨Json.isWellFormed_nat _, Json.isWellFormed_nat _, Json.isWellFormed_nat _, trivial⟩,
    trivial⟩

theorem spells_json (h : v.HasFiniteScores) : Json.Spells v.json v.toJson := by
  have hspelling := Json.spelling_pretty _ (isWellFormed_toJson h)
  refine .mk Json.blanks_nil hspelling (Json.blanks_newline 0) ?_
  rw [json, String.toList_append, List.nil_append]
  rfl

theorem read_json (h : v.HasFiniteScores) : (Json.read? v.json).bind ofJson? = some v := by
  rw [Json.read?_eq_some_iff.mpr (spells_json h), Option.bind_some, ofJson?_toJson h]

/-- Where the text of a suggestion is in the text of the view. -/
theorem suggestion_infix {g : GroupView} {f : FindingView} {ws : WaiverList} (hg : g ∈ v.groups)
    (hf : f ∈ g.findings) (hs : f.suggestion = some ws) :
    Json.memberText 5 (some "suggested_exception") ws.toJson <:+: v.toJson.indent 0 := by
  have hfinding : Json.memberText 5 (some "suggested_exception") ws.toJson <:+:
      f.toJson.indent 4 := by
    refine Json.member_infix_record ?_
    simp [hs]
  have hgroup : f.toJson.indent 4 <:+: g.toJson.indent 2 :=
    Json.item_infix_record "findings" (by simp) (List.mem_map_of_mem hf)
  have hview : g.toJson.indent 2 <:+: v.toJson.indent 0 :=
    Json.item_infix_record "components" (by simp) (List.mem_map_of_mem hg)
  exact hfinding.trans (hgroup.trans hview)

/-- The text that stands there is a list of waivers on its own. -/
theorem exists_suggestion {g : GroupView} {f : FindingView} {ws : WaiverList} (hg : g ∈ v.groups)
    (hf : f ∈ g.findings) (hs : f.suggestion = some ws) : ∃ before text after,
      v.json = before ++ "\"suggested_exception\": " ++ text ++ after ∧
      WaiverList.parse text = .ok ws := by
  obtain ⟨before, after, htext⟩ := suggestion_infix hg hf hs
  refine ⟨.ofList before, .ofList (ws.toJson.indent 5), .ofList after ++ "\n", ?_, ?_⟩
  · have hkey : Json.writeText (some "suggested_exception") ++ [':', ' '] =
        "\"suggested_exception\": ".toList := by decide
    rw [← String.toList_inj, json, Json.pretty, ← htext]
    simp [Json.memberText, ← hkey]
  · have hspelling := Json.spelling_indent 5 _ ws.isWellFormed_toJson
    exact WaiverList.parse_of_spells (.mk Json.blanks_nil hspelling Json.blanks_nil (by simp))

/-- The rendering of a view with finite scores is one document and a line feed, and the view reads
back from it whole; so another view is rendered differently. A finding has the suggestion as a
member if there is one, and not otherwise. The text of that member, as it stands or written
anew by anybody, is read as the very list that is suggested. -/
theorem json_faithful (v : View) (h : v.HasFiniteScores) :
    (∃ text, v.json = text ++ "\n" ∧ v.toJson.Spelling text.toList) ∧
    (Json.read? v.json).bind ofJson? = some v ∧
    (∀ w : View, w.HasFiniteScores → w.json = v.json → w = v) ∧
    ∀ g ∈ v.groups, ∀ f ∈ g.findings,
      f.toJson.field? "suggested_exception" = f.suggestion.map WaiverList.toJson ∧
      ∀ ws, f.suggestion = some ws →
        (∃ before text after,
          v.json = before ++ "\"suggested_exception\": " ++ text ++ after ∧
          WaiverList.parse text = .ok ws) ∧
        ∀ text, Json.Spells text ws.toJson → WaiverList.parse text = .ok ws := by
  refine ⟨⟨_, rfl, Json.spelling_pretty _ (isWellFormed_toJson h)⟩, read_json h, ?_, ?_⟩
  · intro w hw heq
    have hread := read_json hw
    rw [heq, read_json h] at hread
    exact (Option.some.inj hread).symm
  · intro g hg f hf
    refine ⟨f.field?_suggestion, fun ws hs => ⟨exists_suggestion hg hf hs, ?_⟩⟩
    exact fun text => WaiverList.parse_of_spells

/-- One finding of score 7.5, with a suggestion. -/
def oneFinding : View where
  product := "4711"
  link := "https://bdba.example.com/products/4711/"
  status := "ready"
  outcome := .findingsPresent
  exitCode := 1
  message := "Vulnerabilities or unversioned components need review"
  verdict := some ⟨"Vulns", "a \"quoted\" line\nand another", false⟩
  threshold := 4
  groups := [{
    library := "zlib"
    version := some "1.2.11"
    latest := none
    findings := [{
      cve := "CVE-2018-25032"
      summary := "Überlauf"
      score := .finite false 8444249301319680 1024
      active := true
      suggestion := some [{
        cve := some "CVE-2018-25032"
        library := some "zlib"
        version := some "1.2.11"
        fingerprint := some "d41d8cd98f00b204e9800998ecf8427e" }] }] }]
  unversioned := []
  activeCount := 1
  suppressedCount := 0
  unversionedCount := 0

theorem json_faithful_oneFinding : oneFinding.HasFiniteScores ∧
    (Json.read? oneFinding.json).bind ofJson? = some oneFinding := by
  have hscores : oneFinding.HasFiniteScores := by
    simp only [HasFiniteScores, oneFinding, List.forall_mem_singleton]
    exact ⟨by decide, by decide, by decide⟩
  exact ⟨hscores, (json_faithful oneFinding hscores).2.1⟩

end View

end ScanGate
