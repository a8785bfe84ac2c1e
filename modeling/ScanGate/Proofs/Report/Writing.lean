import ScanGate.Proofs.Json.Fields
import ScanGate.Proofs.Json.Numbers
import ScanGate.Proofs.Json.RoundTrip
import ScanGate.Proofs.Waivers
import ScanGate.Report

/-! Reports written and read back. A report can be written in many ways: a missing version
as `null` or not at all, the latest version under either of its names, the mark of an exact
match as a word or a digit, anything as the value that marks a triaged entry. Then its
document can be spelled in many ways. All of them are read as the report. -/
namespace ScanGate

namespace Json

/-- A member that may be left out when there is no text. -/
inductive OptionalMember (key : String) : Option String → List (String × Json) → Prop
  | absent : OptionalMember key none []
  | present (s : Option String) : OptionalMember key s [(key, .optionalText s)]

end Json

/-! ### Written forms -/

namespace Vulnerability

/-- The mark of an exact match. -/
inductive Mark : Bool → Json → Prop
  | word (b : Bool) : Mark b (.bool b)
  | one : Mark true (.number "1")
  | zero : Mark false (.number "0")

/-- An entry is triaged when it has the member. -/
inductive Triage : Bool → List (String × Json) → Prop
  | absent : Triage false []
  | present (value : Json) : Triage true [("triage", value)]

/-- The literal has the score as its value. -/
def Scores (literal : String) (score : Binary64) : Prop :=
  (Json.numberOf literal).map Json.Number.toBinary64 = some score

def details (v : Vulnerability) (literal : String) : Json :=
  .record [("cve", .text v.cve), ("summary", .text v.summary), ("cvss", .number literal)]

inductive Written : Json → Vulnerability → Prop
  | mk {v : Vulnerability} {literal : String} {mark : Json} {triage : List (String × Json)}
      (score : Scores literal v.score) (exact : Mark v.exact mark)
      (triaged : Triage v.triaged triage) :
      Written (.record ([("vuln", v.details literal), ("exact", mark)] ++ triage)) v

end Vulnerability

namespace Component

def counts (c : Component) : Json :=
  .record [("total", .nat c.total.toNat), ("historical", .nat c.historical.toNat)]

def place (p : Place) : Json := .record [("fullpath", .array (p.map .text))]

inductive Written : Json → Component → Prop
  | mk {c : Component} {version latest : List (String × Json)} {entries : List Json}
      (hversion : Json.OptionalMember "version" c.version version)
      (hlatest : Json.OptionalMember "latest_version" c.latest latest ∨
        Json.OptionalMember "latest-version" c.latest latest)
      (hentries : List.Forall₂ Vulnerability.Written entries c.vulnerabilities) :
      Written (.record ([("lib", .text c.library)] ++ version ++ [("vuln-count", c.counts)] ++
        latest ++ [("extended-objects", .array (c.places.map place)),
          ("vulns", .array entries)])) c

end Component

namespace Report

def conclusion (short detail : String) : Json :=
  .record [("verdict", .record [("short", .text short), ("detailed", .text detail)])]

/-- Code and name are those that the status and the verdict are made of. The id of the
product stands beside them and is not part of the report. -/
inductive Written : Json → Report → Prop
  | mk {r : Report} {code short : String} {product : Json} {components : List Json}
      (status : r.status = .ofCode code) (verdict : r.verdict = .ofName short)
      (hcomponents : List.Forall₂ Component.Written components r.components) :
      Written (.record [("results", .record [("product_id", product), ("status", .text code),
        ("summary", conclusion short r.detail), ("components", .array components)])]) r

end Report

/-! ### Every report can be written -/

theorem Vulnerability.exists_written {v : Vulnerability}
    (h : ∃ literal, Scores literal v.score) : ∃ value, Written value v := by
  obtain ⟨literal, hscore⟩ := h
  have htriage : ∃ triage, Triage v.triaged triage := by
    cases v.triaged with
    | false => exact ⟨_, .absent⟩
    | true => exact ⟨_, .present .null⟩
  obtain ⟨_, htriage⟩ := htriage
  exact ⟨_, .mk hscore (.word v.exact) htriage⟩

theorem Component.exists_written {c : Component}
    (h : ∀ v ∈ c.vulnerabilities, ∃ literal, Vulnerability.Scores literal v.score) :
    ∃ value, Written value c := by
  obtain ⟨entries, hentries⟩ :=
    Json.exists_forall₂ fun v hv => Vulnerability.exists_written (h v hv)
  exact ⟨_, .mk (.present c.version) (.inl (.present c.latest)) hentries⟩

/-- Whatever the texts and the numbers are, a report can be written if every score is that
of some literal. -/
theorem Report.exists_written {r : Report} {code short : String} (hstatus : r.status = .ofCode code)
    (hverdict : r.verdict = .ofName short)
    (hscores : ∀ c ∈ r.components, ∀ v ∈ c.vulnerabilities,
      ∃ literal, Vulnerability.Scores literal v.score) : ∃ doc, Written doc r := by
  obtain ⟨components, hcomponents⟩ :=
    Json.exists_forall₂ fun c hc => Component.exists_written (hscores c hc)
  exact ⟨_, @Written.mk r code short .null _ hstatus hverdict hcomponents⟩

/-! ### Reading them -/

theorem Vulnerability.exactness?_of_mark {b : Bool} {mark : Json} (h : Mark b mark) :
    Report.exactness? mark = some b := by
  cases h with
  | word b => rfl
  | one => decide +kernel
  | zero => decide +kernel

theorem Vulnerability.details?_details {v : Vulnerability} {literal : String}
    (h : Scores literal v.score) :
    Report.details? (v.details literal) = some (v.cve, v.summary, v.score) := by
  have hfields : (v.details literal).fields ["cve", "summary", "cvss"] =
      some [some (.text v.cve), some (.text v.summary), some (.number literal)] :=
    Json.fields_record (by simp) _
  have hscore : Json.orDefault .zero Json.real? (some (.number literal)) = some v.score :=
    Json.orDefault_some (by simp) h
  simp only [Report.details?, hfields, Option.bind_eq_bind, Option.bind_some, hscore]
  rfl

/-- The members of an entry, whether it has the one of triage or not. -/
theorem Vulnerability.fields_entry {b : Bool} {triage : List (String × Json)}
    (h : Triage b triage) (details mark : Json) : ∃ value : Option Json, value.isSome = b ∧
      Json.fields ["vuln", "exact", "triage"]
        (.record ([("vuln", details), ("exact", mark)] ++ triage)) =
        some [some details, some mark, value] := by
  cases h with
  | absent =>
    exact ⟨none, rfl, Json.fields_record (by simp) _⟩
  | present value =>
    exact ⟨some value, rfl, Json.fields_record (by simp) _⟩

theorem Vulnerability.Written.read {value : Json} {v : Vulnerability} (h : Written value v) :
    Report.vulnerability? value = some v := by
  obtain @⟨v, literal, mark, triage, hscore, hmark, htriage⟩ := h
  obtain ⟨triaged, htriaged, hfields⟩ := fields_entry htriage (v.details literal) mark
  have hdetails : Json.orDefault ("", "", .zero) Report.details? (some (v.details literal)) =
      some (v.cve, v.summary, v.score) :=
    Json.orDefault_some (by simp [details, Json.record]) (details?_details hscore)
  simp only [Report.vulnerability?, hfields, Option.bind_eq_bind, Option.bind_some, hdetails,
    exactness?_of_mark hmark, htriaged]
  rfl

theorem Component.counts?_counts (c : Component) :
    Report.counts? c.counts = some (c.total, c.historical) := by
  have hfields : c.counts.fields ["total", "historical"] =
      some [some (.nat c.total.toNat), some (.nat c.historical.toNat)] :=
    Json.fields_record (by simp) _
  have hcount (n : UInt32) : Json.orDefault 0 Json.word? (some (.nat n.toNat)) = some n :=
    Json.orDefault_some (by simp [Json.nat]) (Json.word?_nat n)
  simp only [Report.counts?, hfields, Option.bind_eq_bind, Option.bind_some, hcount]
  rfl

theorem Component.place?_place (p : Place) : Report.place? (place p) = some p := by
  have hfields : (place p).fields ["fullpath"] = some [some (.array (p.map .text))] :=
    Json.fields_record (by simp) _
  have hsegments : Json.list Json.text? (.array (p.map .text)) = some p := by
    rw [Json.list_eq_some_iff]
    refine ⟨_, rfl, ?_⟩
    rw [List.forall₂_map_left_iff, List.forall₂_same]
    exact fun _ _ => rfl
  simp only [Report.place?, hfields, Option.bind_eq_bind, Option.bind_some]
  exact Json.orDefault_some (by simp) hsegments

theorem Json.OptionalMember.exists_value {key : String} {s : Option String}
    {members : List (String × Json)} (h : OptionalMember key s members) :
    ∃ value : Option Json, members = (value.map (key, ·)).toList ∧
      optional text? value = some s := by
  cases h with
  | absent => exact ⟨none, rfl, rfl⟩
  | present => exact ⟨some (.optionalText s), rfl, Json.optional_optionalText s⟩

/-- The members of a component, whichever of the optional ones it has. -/
theorem Component.fields_component {version latest : Option String}
    {versions latests : List (String × Json)} (hv : Json.OptionalMember "version" version versions)
    (hl : Json.OptionalMember "latest_version" latest latests ∨
      Json.OptionalMember "latest-version" latest latests) (lib counts places entries : Json) :
    ∃ v underscored dashed : Option Json, ∃ u d : Option String,
      Json.optional Json.text? v = some version ∧
      Json.optional Json.text? underscored = some u ∧
      Json.optional Json.text? dashed = some d ∧ (u <|> d) = latest ∧
      Json.fields ["lib", "version", "vuln-count", "latest_version", "latest-version",
          "extended-objects", "vulns"]
        (.record ([("lib", lib)] ++ versions ++ [("vuln-count", counts)] ++ latests ++
          [("extended-objects", places), ("vulns", entries)])) =
        some [some lib, v, some counts, underscored, dashed, some places, some entries] := by
  obtain ⟨v, rfl, hversion⟩ := hv.exists_value
  obtain hl | hl := hl
  · obtain ⟨l, rfl, hlatest⟩ := hl.exists_value
    refine ⟨v, l, none, latest, none, hversion, hlatest, rfl, by simp, ?_⟩
    cases v <;> cases l <;> exact Json.fields_record (by simp) _
  · obtain ⟨l, rfl, hlatest⟩ := hl.exists_value
    refine ⟨v, none, l, none, latest, hversion, rfl, hlatest, rfl, ?_⟩
    cases v <;> cases l <;> exact Json.fields_record (by simp) _

theorem Component.Written.read {value : Json} {c : Component} (h : Written value c) :
    Report.component? value = some c := by
  obtain @⟨c, versions, latests, entries, hversion, hlatest, hentries⟩ := h
  obtain ⟨v, underscored, dashed, u, d, hv, hu, hd, hud, hfields⟩ :=
    fields_component hversion hlatest (.text c.library) c.counts
      (.array (c.places.map place)) (.array entries)
  have hcounts : Json.orDefault (0, 0) Report.counts? (some c.counts) =
      some (c.total, c.historical) :=
    Json.orDefault_some (by simp [counts, Json.record]) c.counts?_counts
  have hplaces : Json.orDefault [] (Json.list Report.place?)
      (some (.array (c.places.map place))) = some c.places := by
    refine Json.orDefault_some (by simp) (Json.list_eq_some_iff.mpr ⟨_, rfl, ?_⟩)
    rw [List.forall₂_map_left_iff, List.forall₂_same]
    exact fun p _ => place?_place p
  have hvulnerabilities : Json.orDefault [] (Json.list Report.vulnerability?)
      (some (.array entries)) = some c.vulnerabilities :=
    Json.orDefault_some (by simp)
      (Json.list_eq_some_iff.mpr ⟨_, rfl, hentries.imp fun _ _ h => h.read⟩)
  simp only [Report.component?, hfields, Option.bind_eq_bind, Option.bind_some, hcounts, hu, hd,
    hv, hud, hplaces, hvulnerabilities]
  rfl

theorem Report.summary?_conclusion (short detail : String) :
    summary? (conclusion short detail) = some (short, detail) := by
  simp [conclusion, summary?, verdict?, Json.record, Json.fields, Json.occurrences, Json.member?,
    Json.orDefault, Json.optional, Json.text, Json.text?]

theorem Report.Written.ofJson? {doc : Json} {r : Report} (h : Written doc r) :
    Report.ofJson? doc = some r := by
  obtain @⟨r, code, short, product, components, hstatus, hverdict, hcomponents⟩ := h
  have hsummary : Json.orDefault ("", "") summary? (some (conclusion short r.detail)) =
      some (short, r.detail) :=
    Json.orDefault_some (by simp [conclusion, Json.record]) (summary?_conclusion _ _)
  have hlist : Json.orDefault [] (Json.list component?) (some (.array components)) =
      some r.components :=
    Json.orDefault_some (by simp)
      (Json.list_eq_some_iff.mpr ⟨_, rfl, hcomponents.imp fun _ _ h => h.read⟩)
  have hresults : results? (.record [("product_id", product), ("status", .text code),
      ("summary", conclusion short r.detail), ("components", .array components)]) = some r := by
    have hfields : Json.fields ["status", "summary", "components"]
        (.record [("product_id", product), ("status", .text code),
          ("summary", conclusion short r.detail), ("components", .array components)]) =
        some [some (.text code), some (conclusion short r.detail), some (.array components)] :=
      Json.fields_record (by simp) _
    have hcode : Json.required Json.text? (some (.text code)) = some code := rfl
    simp only [results?, hfields, Option.bind_eq_bind, Option.bind_some, hcode, hsummary, hlist,
      ← hstatus, ← hverdict]
    rfl
  have hfields (value : Json) :
      Json.fields ["results"] (.record [("results", value)]) = some [some value] :=
    Json.fields_record (by simp) _
  simp only [Report.ofJson?, hfields, Option.bind_eq_bind, Option.bind_some, Json.required,
    hresults]

/-- A report is read back from any spelling of any document it is written as, with nothing
lost and nothing moved. -/
theorem Report.parse_written {r : Report} {doc : Json} {body : String} (hdoc : Written doc r)
    (hbody : Json.Spells body doc) : parse body = .ok r := by
  rw [parse, Json.read?_eq_some_iff.mpr hbody, Option.bind_some, hdoc.ofJson?]

/-- A component without a version, with two places and a triaged entry. -/
def Report.written : Report where
  status := .unknown "Q"
  verdict := .vulnerable
  detail := "\n"
  components := [
    { library := "zlib", latest := some "1.3", places := [["a.tar", "b"], []], total := 1
      vulnerabilities := [
        { cve := "CVE-1", summary := "\"", score := .ofNat 7, exact := true, triaged := true }] }]

/-- Its document, with a dash in the name of the latest version, a digit for the exact match
and `null` as triage. -/
def Report.writtenDocument : Json :=
  .record [("results", .record [("product_id", .number "12"), ("status", .text "Q"),
    ("summary", conclusion "Vulns" "\n"),
    ("components", .array [.record [("lib", .text "zlib"),
      ("vuln-count", .record [("total", .number "1"), ("historical", .number "0")]),
      ("latest-version", .text "1.3"),
      ("extended-objects", .array [Component.place ["a.tar", "b"], Component.place []]),
      ("vulns", .array [.record [
        ("vuln", .record [("cve", .text "CVE-1"), ("summary", .text "\""),
          ("cvss", .number "7.0")]),
        ("exact", .number "1"), ("triage", .null)]])]])])]

theorem Report.parse_written_sample :
    Written writtenDocument written ∧ Json.Spells writtenDocument.compact writtenDocument ∧
      parse writtenDocument.compact = .ok written := by
  let v : Vulnerability := written.components[0].vulnerabilities[0]
  have hscore : Vulnerability.Scores "7.0" v.score := by
    unfold Vulnerability.Scores
    decide +kernel
  have hentry := @Vulnerability.Written.mk v "7.0" _ _ hscore .one (.present .null)
  have hcomponent : Component.Written _ written.components[0] :=
    .mk .absent (.inr (.present _)) (.cons hentry .nil)
  have hdoc : Written writtenDocument written :=
    @Written.mk written "Q" "Vulns" (.number "12") _ rfl rfl (.cons hcomponent .nil)
  have hwell : writtenDocument.IsWellFormed := by
    simp only [writtenDocument, conclusion, Component.place, Json.record, Json.text,
      Json.IsWellFormed, Json.wellFormedMembers, Json.wellFormedItems, List.map_cons,
      List.map_nil, true_and, and_true]
    exact ⟨rfl, ⟨rfl, rfl⟩, rfl, rfl⟩
  have hbody := Json.spells_compact writtenDocument hwell
  exact ⟨hdoc, hbody, parse_written hdoc hbody⟩

end ScanGate
