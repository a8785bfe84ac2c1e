import ScanGate.Proofs.Json.Fields
import ScanGate.Proofs.Json.Numbers
import ScanGate.Report

/-! What a report says, read off its document. The functions here only look up members
and know nothing of decoding: what is missing, or of another kind, counts as nothing.
A document whose records are objects, if it is accepted at all, is accepted with
exactly this reading. -/
namespace ScanGate.Wire

/-! ### The document -/

def results (doc : Json) : Json := doc.get "results"

/-- The code of the status, as it is written. -/
def status (doc : Json) : Json := (results doc).get "status"

def verdict (doc : Json) : Json := ((results doc).get "summary").get "verdict"

/-- The text under a key, empty if there is none. -/
def textAt (key : String) (value : Json) : String := (value.get key).text?.getD ""

/-- The natural number under a key, zero if there is none. -/
def countAt (key : String) (value : Json) : Nat := ((value.get key).integer?.getD 0).toNat

theorem countAt_of_get {key : String} {value : Json} {n : Nat} (h : value.get key = .nat n) :
    countAt key value = n := by
  have hread : (Json.nat n).integer? = some n := Json.integer?_toString n
  rw [countAt, h, hread]
  rfl

/-- A count that is accepted is the natural number that is written. -/
theorem toNat_eq_countAt {key : String} {value : Json} {n : UInt32}
    (h : Json.orDefault 0 Json.word? (value.field? key) = some n) :
    n.toNat = countAt key value := by
  refine Json.orDefault_induction (motive := fun value n =>
    UInt32.toNat n = (value.integer?.getD 0).toNat) rfl (fun n hn => ?_) h
  rw [Json.integer?_of_word? hn]
  rfl

def components (doc : Json) : List Json := ((results doc).get "components").items

/-! ### A component -/

def library (c : Json) : String := textAt "lib" c

def version (c : Json) : Option String := (c.get "version").text?

def total (c : Json) : Nat := countAt "total" (c.get "vuln-count")

def historical (c : Json) : Nat := countAt "historical" (c.get "vuln-count")

def objects (c : Json) : List Json := (c.get "extended-objects").items

def place (o : Json) : Place := (o.get "fullpath").items.map fun segment => segment.text?.getD ""

def places (c : Json) : List Place := (objects c).map place

def entries (c : Json) : List Json := (c.get "vulns").items

/-! ### An entry -/

def cve (e : Json) : String := textAt "cve" (e.get "vuln")

def score (e : Json) : Binary64 := ((e.get "vuln").get "cvss").real?.getD .zero

/-- The mark of an exact match: `true`, or a number that is not zero as a double. -/
def IsExact (e : Json) : Prop :=
  e.get "exact" = .bool true ∨ ∃ literal n, e.get "exact" = .number literal ∧
    Json.numberOf literal = some n ∧ n.toBinary64.isZero = false

/-- Whether a value marks an exact match. -/
def marks : Json → Bool
  | .bool b => b
  | .number literal => (Json.numberOf literal).any fun n => !n.toBinary64.isZero
  | _ => false

def exact (e : Json) : Bool := marks (e.get "exact")

theorem exact_iff {e : Json} : exact e = true ↔ IsExact e := by
  unfold exact IsExact
  cases e.get "exact" with
  | bool b => simp [marks]
  | number literal => simp [marks, Option.any_eq_true]
  | _ => simp [marks]

/-- Somebody has looked at the entry: it has that member, whatever is in it. -/
def IsTriaged (e : Json) : Prop := (e.field? "triage").isSome = true

instance (e : Json) : Decidable (IsTriaged e) := inferInstanceAs (Decidable (_ = true))

/-! ### Readings -/

/-- Name, summary and score. -/
def details (v : Json) : String × String × Binary64 :=
  (textAt "cve" v, textAt "summary" v, (v.get "cvss").real?.getD .zero)

/-- Both counts of vulnerabilities. -/
def Tallies (v : Json) (x : UInt32 × UInt32) : Prop :=
  x.1.toNat = countAt "total" v ∧ x.2.toNat = countAt "historical" v

/-- Short and detailed verdict. -/
def opinion (v : Json) : String × String := (textAt "short" v, textAt "detailed" v)

/-- The verdict of a summary. -/
def conclusion (v : Json) : String × String := opinion (v.get "verdict")

def vulnerability (e : Json) : Vulnerability where
  cve := cve e
  summary := textAt "summary" (e.get "vuln")
  score := score e
  exact := exact e
  triaged := (e.field? "triage").isSome

def component (c : Json) : Component where
  library := library c
  version := version c
  latest := (c.get "latest_version").text? <|> (c.get "latest-version").text?
  places := places c
  total := .ofNat (total c)
  historical := .ofNat (historical c)
  vulnerabilities := (entries c).map vulnerability

def report (doc : Json) : Report where
  status := .ofCode (textAt "status" (results doc))
  verdict := .ofName (textAt "short" (verdict doc))
  detail := textAt "detailed" (verdict doc)
  components := (components doc).map component

/-- Both counts fit in 32 bits. -/
def Fits (c : Json) : Prop := total c < 2 ^ 32 ∧ historical c < 2 ^ 32

/-! ### Records in object form -/

/-- What a component's own records are written as. -/
structure IsComponent (c : Json) : Prop where
  self : c.IsRecord
  counts : (c.get "vuln-count").IsRecord
  objects : ∀ o ∈ objects c, o.IsRecord
  entries : ∀ e ∈ entries c, e.IsRecord ∧ (e.get "vuln").IsRecord

/-- All records of the document are objects, where they are there at all. -/
structure IsDocument (doc : Json) : Prop where
  self : doc.IsRecord
  results : (results doc).IsRecord
  summary : ((Wire.results doc).get "summary").IsRecord
  verdict : (verdict doc).IsRecord
  components : ∀ c ∈ components doc, IsComponent c

/-! ### Decoding is reading -/

theorem details?_eq {v : Json} {x : String × String × Binary64} (hv : v.IsRecord)
    (h : Report.details? v = some x) : x = details v := by
  simp only [Report.details?, Option.bind_eq_bind, Option.bind_eq_some_iff] at h
  obtain ⟨fs, hfs, h⟩ := h
  obtain rfl := Json.fields_eq hv hfs
  simp only [List.map_cons, List.map_nil, Option.bind_eq_some_iff] at h
  obtain ⟨cve, hc, summary, hs, score, hx, h⟩ := h
  rw [← Option.some.inj h, Json.orDefault_eq rfl hc, Json.orDefault_eq rfl hs,
    Json.orDefault_eq rfl hx]
  rfl

theorem exactness?_eq {v : Json} {b : Bool} (h : Report.exactness? v = some b) :
    b = marks v := by
  simp only [Report.exactness?, Option.bind_eq_bind, Option.bind_eq_some_iff, Json.whole?,
    Option.ite_none_right_eq_some, Option.some.injEq] at h
  obtain ⟨w, ⟨-, rfl⟩, h⟩ := h
  cases v with
  | _ => exact (Option.some.inj h).symm

theorem vulnerability?_eq {e : Json} {v : Vulnerability} (he : e.IsRecord)
    (hv : (e.get "vuln").IsRecord) (h : Report.vulnerability? e = some v) :
    v = vulnerability e := by
  simp only [Report.vulnerability?, Option.bind_eq_bind, Option.bind_eq_some_iff] at h
  obtain ⟨fs, hfs, h⟩ := h
  obtain rfl := Json.fields_eq he hfs
  simp only [List.map_cons, List.map_nil, Option.bind_eq_some_iff] at h
  obtain ⟨d, hd, h⟩ := h
  have hdetails : d = details (e.get "vuln") :=
    Json.orDefault_reading rfl (fun x hx => details?_eq hv hx) hd
  subst hdetails
  -- A missing mark is no mark; only one that is there is decoded.
  cases hf : e.field? "exact" with
  | none =>
    have hexact : exact e = false := by rw [exact, Json.get, hf]; rfl
    simp only [hf, details, Option.pure_def, Option.bind_some, Option.some.injEq] at h
    rw [← h, vulnerability, hexact]
    rfl
  | some x =>
    have hget : e.get "exact" = x := by rw [Json.get, hf]; rfl
    simp only [hf, details, Option.pure_def, Option.bind_eq_some_iff, Option.some.injEq] at h
    obtain ⟨b, hb, h⟩ := h
    rw [← h, vulnerability, exact, hget, exactness?_eq hb]
    rfl

theorem counts?_eq {v : Json} {x : UInt32 × UInt32} (hv : v.IsRecord)
    (h : Report.counts? v = some x) : Tallies v x := by
  simp only [Report.counts?, Option.bind_eq_bind, Option.bind_eq_some_iff] at h
  obtain ⟨fs, hfs, h⟩ := h
  obtain rfl := Json.fields_eq hv hfs
  simp only [List.map_cons, List.map_nil, Option.bind_eq_some_iff] at h
  obtain ⟨total, ht, historical, hh, h⟩ := h
  rw [← Option.some.inj h]
  exact ⟨toNat_eq_countAt ht, toNat_eq_countAt hh⟩

theorem place?_eq {o : Json} {p : Place} (ho : o.IsRecord) (h : Report.place? o = some p) :
    p = place o := by
  simp only [Report.place?, Option.bind_eq_bind, Option.bind_eq_some_iff] at h
  obtain ⟨fs, hfs, h⟩ := h
  obtain rfl := Json.fields_eq ho hfs
  simp only [List.map_cons, List.map_nil] at h
  refine Json.orDefault_list_reading (fun v _ s hs => ?_) h
  rw [hs]
  rfl

theorem component?_eq {v : Json} {c : Component} (hv : IsComponent v)
    (h : Report.component? v = some c) : c = component v ∧ Fits v := by
  simp only [Report.component?, Option.bind_eq_bind, Option.bind_eq_some_iff] at h
  obtain ⟨fs, hfs, h⟩ := h
  obtain rfl := Json.fields_eq hv.self hfs
  simp only [List.map_cons, List.map_nil, Option.bind_eq_some_iff] at h
  obtain ⟨counts, hcounts, underscored, hu, dashed, hd, lib, hlib, version, hver, ps, hps, vs,
    hvs, h⟩ := h
  obtain ⟨ht, hh⟩ : counts.1.toNat = total v ∧ counts.2.toNat = historical v :=
    Json.orDefault_induction (motive := Tallies) ⟨rfl, rfl⟩ (fun x hx => counts?_eq hv.counts hx)
      hcounts
  have hp : ps = places v :=
    Json.orDefault_list_reading (fun o ho p hp => place?_eq (hv.objects o ho) hp) hps
  have hvul : vs = (entries v).map vulnerability :=
    Json.orDefault_list_reading
      (fun e he x hx => vulnerability?_eq (hv.entries e he).1 (hv.entries e he).2 hx) hvs
  refine ⟨?_, ht ▸ counts.1.toNat_lt, hh ▸ counts.2.toNat_lt⟩
  rw [← Option.some.inj h, hp, hvul, Json.orDefault_eq rfl hlib, Json.optional_eq rfl hver,
    Json.optional_eq rfl hu, Json.optional_eq rfl hd, component, ← ht, ← hh, UInt32.ofNat_toNat,
    UInt32.ofNat_toNat]
  rfl

theorem verdict?_eq {v : Json} {x : String × String} (hv : v.IsRecord)
    (h : Report.verdict? v = some x) : x = opinion v := by
  simp only [Report.verdict?, Option.bind_eq_bind, Option.bind_eq_some_iff] at h
  obtain ⟨fs, hfs, h⟩ := h
  obtain rfl := Json.fields_eq hv hfs
  simp only [List.map_cons, List.map_nil, Option.bind_eq_some_iff] at h
  obtain ⟨short, hs, detailed, hd, h⟩ := h
  rw [← Option.some.inj h, Json.orDefault_eq rfl hs, Json.orDefault_eq rfl hd]
  rfl

theorem summary?_eq {v : Json} {x : String × String} (hv : v.IsRecord)
    (hverdict : (v.get "verdict").IsRecord) (h : Report.summary? v = some x) :
    x = conclusion v := by
  simp only [Report.summary?, Option.bind_eq_bind, Option.bind_eq_some_iff] at h
  obtain ⟨fs, hfs, h⟩ := h
  obtain rfl := Json.fields_eq hv hfs
  simp only [List.map_cons, List.map_nil] at h
  exact Json.orDefault_reading rfl (fun y hy => verdict?_eq hverdict hy) h

theorem results?_eq {doc : Json} {r : Report} (hdoc : IsDocument doc)
    (h : Report.results? (results doc) = some r) :
    (∃ code, status doc = .text code) ∧ r = report doc ∧ ∀ c ∈ components doc, Fits c := by
  simp only [Report.results?, Option.bind_eq_bind, Option.bind_eq_some_iff] at h
  obtain ⟨fs, hfs, h⟩ := h
  obtain rfl := Json.fields_eq hdoc.results hfs
  simp only [List.map_cons, List.map_nil, Option.bind_eq_some_iff] at h
  obtain ⟨code, hcode, x, hx, cs, hcs, h⟩ := h
  have hstatus : (status doc).text? = some code := Json.decode_of_required hcode
  have hsummary : x = conclusion ((results doc).get "summary") :=
    Json.orDefault_reading rfl (fun y hy => summary?_eq hdoc.summary hdoc.verdict hy) hx
  have hcomponents : cs = (components doc).map component :=
    Json.orDefault_list_reading (fun c hc y hy => (component?_eq (hdoc.components c hc) hy).1) hcs
  have hfits : ∀ c ∈ components doc, Fits c := by
    intro c hc
    obtain ⟨y, hy⟩ := Json.exists_of_orDefault hcs c hc
    exact (component?_eq (hdoc.components c hc) hy).2
  refine ⟨⟨code, Json.text?_eq_some.mp hstatus⟩, ?_, hfits⟩
  have hread : textAt "status" (results doc) = code := by
    rw [textAt, ← status, hstatus]
    rfl
  rw [← Option.some.inj h, hsummary, hcomponents, report, hread]
  rfl

theorem ofJson?_eq {doc : Json} {r : Report} (hdoc : IsDocument doc)
    (h : Report.ofJson? doc = some r) :
    (∃ code, status doc = .text code) ∧ r = report doc ∧ ∀ c ∈ components doc, Fits c := by
  simp only [Report.ofJson?, Option.bind_eq_bind, Option.bind_eq_some_iff] at h
  obtain ⟨fs, hfs, h⟩ := h
  obtain rfl := Json.fields_eq hdoc.self hfs
  simp only [List.map_cons, List.map_nil] at h
  exact results?_eq hdoc (Json.decode_of_required h)

/-- An accepted body is the reading of its document; its status is a text, and all counts fit. -/
theorem parse_eq {body : String} {doc : Json} {r : Report} (hread : Json.read? body = some doc)
    (hdoc : IsDocument doc) (h : Report.parse body = .ok r) :
    (∃ code, status doc = .text code) ∧ r = report doc ∧ ∀ c ∈ components doc, Fits c := by
  have hjson : Report.ofJson? doc = some r := by
    unfold Report.parse at h
    rw [hread, Option.bind_some] at h
    cases ho : Report.ofJson? doc with
    | none =>
      rw [ho] at h
      cases h
    | some r' =>
      rw [ho] at h
      cases h
      rfl
  exact ofJson?_eq hdoc hjson

end ScanGate.Wire
