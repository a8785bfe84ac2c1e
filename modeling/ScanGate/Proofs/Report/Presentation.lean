import Mathlib.Logic.Relation
import ScanGate.Proofs.Json.RoundTrip
import ScanGate.Proofs.Report.Marking
import ScanGate.Proofs.Report.Reading
import ScanGate.Proofs.Report.Schema

/-! How a report is presented does not matter. The members of an object may stand in any
order, a record may have members that it does not know, a field that may be missing may
as well be `null`, and the latest version has two names. A member for triage does matter,
and nothing but the mark of its entry changes with it. The key of a further member has to be
a text: half of a surrogate pair as a key makes the document malformed. -/
namespace ScanGate

open Json (At Key Permuted valuesAt)

/-! ### Changes of presentation -/

namespace Shape

/-- A change of one record that does not matter. -/
inductive Edit : Shape → Json → Json → Prop
  /-- A member that the record does not know. -/
  | unknown {s : Shape} {key : String} {value : Json}
      {before after : List (Option String × Json)} (hs : s.fields ≠ []) (hkey : key ∉ s.names) :
      Edit s (.object (before ++ after)) (.object (before ++ (some key, value) :: after))
  /-- A missing field as `null`. -/
  | null {s : Shape} {key : String} {before after : List (Option String × Json)}
      (hkey : key ∈ s.names) (hn : Nullable key)
      (habsent : ∀ member ∈ before ++ after, member.1 ≠ some key) :
      Edit s (.object (before ++ after)) (.object (before ++ (some key, .null) :: after))
  /-- The other name of the latest version. -/
  | latest {value : Json} {before after : List (Option String × Json)}
      (habsent : ∀ member ∈ before ++ after,
        member.1 ≠ some "latest_version" ∧ member.1 ≠ some "latest-version") :
      Edit component (.object (before ++ (some "latest_version", value) :: after))
        (.object (before ++ (some "latest-version", value) :: after))

variable {s t : Shape} {v v' : Json} {key : String} {value : Json}
  {before after : List (Option String × Json)}

theorem Same.of_unknown (hs : s.fields ≠ []) (hkey : key ∉ s.names) :
    s.Same (.object (before ++ after)) (.object (before ++ (some key, value) :: after)) := by
  have hvalues : ∀ field ∈ s.fields,
      valuesAt field.1 (before ++ (some key, value) :: after) =
        valuesAt field.1 (before ++ after) := by
    intro field hfield
    refine Json.valuesAt_insert_ne ?_ value
    rintro ⟨⟩
    exact hkey (List.mem_map_of_mem hfield)
  refine ⟨Json.noConfusion, Json.noConfusion,
    SameRecord.decode_eq hs (.object Json.texts_insert.symm ?_ ?_)⟩
  · intro field hfield
    rw [hvalues field hfield]
  · intro field hfield _
    rw [hvalues field hfield]
    exact .rfl _

theorem Same.of_null (hkey : key ∈ s.names) (hn : Nullable key)
    (habsent : ∀ member ∈ before ++ after, member.1 ≠ some key) :
    s.Same (.object (before ++ after)) (.object (before ++ (some key, .null) :: after)) := by
  have hs : s.fields ≠ [] := by
    rintro h
    rw [names, h] at hkey
    cases hkey
  have hother {name : String} (h : name ≠ key) :
      valuesAt name (before ++ (some key, .null) :: after) = valuesAt name (before ++ after) :=
    Json.valuesAt_insert_ne (by simpa using h.symm) _
  have hnone := Json.valuesAt_eq_nil habsent
  have hone := Json.valuesAt_insert_self habsent .null
  refine ⟨Json.noConfusion, Json.noConfusion,
    SameRecord.decode_eq hs (.object Json.texts_insert.symm ?_ ?_)⟩
  · intro field _
    by_cases h : field.1 = key
    · simp [h, hnone, hone]
    · rw [hother h]
  · intro field _ _
    by_cases h : field.1 = key
    · rw [h, hnone, hone]
      exact .null hn
    · rw [hother h]
      exact .rfl _

theorem component?_of_latest {v v' : Json} {latest : Json}
    {lib version counts places vulns : Option Json}
    (h : v.fields component.names =
      some [lib, version, counts, some latest, none, places, vulns])
    (h' : v'.fields component.names =
      some [lib, version, counts, none, some latest, places, vulns]) :
    component.decode v = component.decode v' := by
  change (v.fields component.names).bind _ = (v'.fields component.names).bind _
  have hnone : Json.optional Json.text? none = some none := rfl
  rw [h, h']
  simp only [Option.bind_some, Option.bind_eq_bind, hnone]
  cases Json.optional Json.text? (some latest) with
  | none => rfl
  | some text => cases text <;> rfl

theorem Same.of_latest
    (habsent : ∀ member ∈ before ++ after,
      member.1 ≠ some "latest_version" ∧ member.1 ≠ some "latest-version") :
    component.Same (.object (before ++ (some "latest_version", value) :: after))
      (.object (before ++ (some "latest-version", value) :: after)) := by
  have hu := fun member hmember => (habsent member hmember).1
  have hd := fun member hmember => (habsent member hmember).2
  have hregular {key : String} (h : ∀ member ∈ before ++ after, member.1 ≠ some key) :
      Json.Regular component.names (before ++ (some key, value) :: after) ↔
        Json.Regular component.names (before ++ after) := Json.regular_insert h value
  refine ⟨Json.noConfusion, Json.noConfusion, ?_⟩
  by_cases hr : Json.Regular component.names (before ++ after)
  · let found (name : String) := Json.member? name (before ++ after)
    have hother {key name : String} (h : key ≠ name) :
        Json.member? name (before ++ (some key, value) :: after) = found name :=
      Json.member?_insert_ne (by simpa using h) value
    have hnone {name : String} (h : ∀ member ∈ before ++ after, member.1 ≠ some name) :
        found name = none := (Json.member?_eq_head? _ _).trans (by rw [Json.valuesAt_eq_nil h]; rfl)
    have hleft : (Json.object (before ++ (some "latest_version", value) :: after)).fields
        component.names = some [found "lib", found "version", found "vuln-count", some value,
          none, found "extended-objects", found "vulns"] := by
      rw [(Json.fields_object _ _).mpr ((hregular hu).mpr hr), ← hnone hd]
      simp (disch := decide) only [names, fields, List.map_cons, List.map_nil, hother,
        Json.member?_insert_self hu]
    have hright : (Json.object (before ++ (some "latest-version", value) :: after)).fields
        component.names = some [found "lib", found "version", found "vuln-count", none,
          some value, found "extended-objects", found "vulns"] := by
      rw [(Json.fields_object _ _).mpr ((hregular hd).mpr hr), ← hnone hu]
      simp (disch := decide) only [names, fields, List.map_cons, List.map_nil, hother,
        Json.member?_insert_self hd]
    exact component?_of_latest hleft hright
  · have hmissing {key : String} (h : ∀ member ∈ before ++ after, member.1 ≠ some key) :
        (Json.object (before ++ (some key, value) :: after)).fields component.names = none :=
      Json.fields_object_eq_none ((hregular h).not.mpr hr)
    exact SameRecord.decode_eq (List.cons_ne_nil _ _) (.neither (hmissing hu) (hmissing hd))

theorem Edit.same (h : Edit s v v') : s.Same v v' := by
  cases h with
  | unknown hs hkey => exact .of_unknown hs hkey
  | null hkey hn habsent => exact .of_null hkey hn habsent
  | latest habsent => exact .of_latest habsent

end Shape

namespace Report

/-- One change of presentation in a document. -/
inductive Step : Json → Json → Prop
  | reordered {path : List Key} {doc doc' : Json} (h : At Permuted path doc doc') : Step doc doc'
  | edited {path : List Key} {s : Shape} {doc doc' : Json}
      (hs : Shape.document.follow path = some s) (h : At s.Edit path doc doc') : Step doc doc'

/-- Any number of changes, made or taken back. -/
def Presents : Json → Json → Prop := Relation.EqvGen Step

theorem Step.ofJson?_eq {doc doc' : Json} (h : Step doc doc') : ofJson? doc = ofJson? doc' := by
  cases h with
  | reordered h => exact (Shape.Same.of_reordered h .document).decode_eq
  | edited hs h => exact (Shape.Same.at h hs fun _ _ => Shape.Edit.same).decode_eq

theorem Presents.ofJson?_eq {doc doc' : Json} (h : Presents doc doc') :
    ofJson? doc = ofJson? doc' := by
  induction h with
  | rel _ _ h => exact h.ofJson?_eq
  | refl _ => rfl
  | symm _ _ _ ih => exact ih.symm
  | trans _ _ _ _ _ ih ih' => exact ih.trans ih'

theorem Presents.parse_eq {body body' : String} {doc doc' : Json} (hbody : Json.Spells body doc)
    (hbody' : Json.Spells body' doc') (h : Presents doc doc') : parse body = parse body' := by
  rw [parse, parse, Json.read?_eq_some_iff.mpr hbody, Json.read?_eq_some_iff.mpr hbody',
    Option.bind_some, Option.bind_some, h.ofJson?_eq]

end Report

/-! ### The latest version -/

namespace Wire

variable {doc c : Json} {r : Report} {k : Component}

/-- The components of an accepted report are decoded one by one. -/
theorem forall₂_components (hdoc : IsDocument doc) (h : Report.ofJson? doc = some r) :
    List.Forall₂ (fun c k => Report.component? c = some k) (components doc) r.components := by
  simp only [Report.ofJson?, Option.bind_eq_bind, Option.bind_eq_some_iff] at h
  obtain ⟨fs, hfs, h⟩ := h
  obtain rfl := Json.fields_eq hdoc.self hfs
  simp only [List.map_cons, List.map_nil] at h
  have hresults : Report.results? (results doc) = some r := Json.decode_of_required h
  simp only [Report.results?, Option.bind_eq_bind, Option.bind_eq_some_iff] at hresults
  obtain ⟨gs, hgs, h⟩ := hresults
  obtain rfl := Json.fields_eq hdoc.results hgs
  simp only [List.map_cons, List.map_nil, Option.bind_eq_some_iff] at h
  obtain ⟨code, hcode, x, hx, cs, hcs, h⟩ := h
  cases h
  exact Json.forall₂_of_orDefault hcs

/-- The name with the underscore decides, whatever stands under the other. -/
theorem latest_of_underscored (hc : c.IsRecord) (h : Report.component? c = some k)
    (hlatest : c.get "latest_version" ≠ .null) :
    ∃ text, c.get "latest_version" = .text text ∧ k.latest = some text := by
  simp only [Report.component?, Option.bind_eq_bind, Option.bind_eq_some_iff] at h
  obtain ⟨fs, hfs, h⟩ := h
  obtain rfl := Json.fields_eq hc hfs
  simp only [List.map_cons, List.map_nil, Option.bind_eq_some_iff] at h
  obtain ⟨counts, -, underscored, hu, dashed, -, lib, -, version, -, ps, -, vs, -, h⟩ := h
  cases h
  cases hf : c.field? "latest_version" with
  | none => exact absurd (by rw [Json.get, hf]; rfl) hlatest
  | some value =>
    have hvalue : c.get "latest_version" = value := by rw [Json.get, hf]; rfl
    rw [hvalue] at hlatest ⊢
    rw [hf, Json.optional_of_ne_null hlatest, Option.map_eq_some_iff] at hu
    obtain ⟨text, htext, rfl⟩ := hu
    exact ⟨text, Json.text?_eq_some.mp htext, rfl⟩

end Wire

/-! ### Presentation does not matter -/

namespace Report

variable {body body' : String} {doc doc' : Json} {r : Report}

theorem parse_eq_ok_iff (hbody : Json.Spells body doc) :
    parse body = .ok r ↔ ofJson? doc = some r := by
  rw [parse, Json.read?_eq_some_iff.mpr hbody, Option.bind_some]
  cases ofJson? doc <;> simp

/-- What a body is parsed as depends neither on the order of members, nor on members that a
record does not know, nor on whether a missing field is written as `null`, nor on the name of
the latest version. Where both names are used, it is the one with the underscore. And a
member for triage in one entry marks that vulnerability and changes nothing else. -/
theorem parse_presentation :
    (∀ body body' doc doc', Json.Spells body doc → Json.Spells body' doc' → Presents doc doc' →
      parse body = parse body') ∧
    (∀ body doc r, Json.Spells body doc → Wire.IsDocument doc → parse body = .ok r →
      ∀ (i : Nat) (c : Json), (Wire.components doc)[i]? = some c →
        c.get "latest_version" ≠ .null →
        ∃ (text : String) (k : Component), c.get "latest_version" = .text text ∧
          r.components[i]? = some k ∧ k.latest = some text) ∧
    ∀ body body' doc doc' r i j, Json.Spells body doc → Json.Spells body' doc' →
      parse body = .ok r → At Vulnerability.Marked (entryPath i j) doc doc' →
      ∃ c v, r.components[i]? = some c ∧ c.vulnerabilities[j]? = some v ∧ v.triaged = false ∧
        parse body' = .ok (r.mark i j c v) := by
  refine ⟨fun _ _ _ _ => Presents.parse_eq, ?_, ?_⟩
  · intro body doc r hbody hdoc hr i c hi hlatest
    have hall := Wire.forall₂_components hdoc ((parse_eq_ok_iff hbody).mp hr)
    obtain ⟨hlt, hc⟩ := List.getElem?_eq_some_iff.mp hi
    have hlt' : i < r.components.length := hall.length_eq ▸ hlt
    have hk := List.Forall₂.get hall hlt hlt'
    have hrecord := (hdoc.components c (List.mem_of_getElem? hi)).self
    rw [List.get_eq_getElem, hc] at hk
    obtain ⟨text, htext, hk⟩ := Wire.latest_of_underscored hrecord hk hlatest
    exact ⟨text, _, htext, List.getElem?_eq_getElem hlt', hk⟩
  · intro body body' doc doc' r i j hbody hbody' hr hmarked
    obtain ⟨c, v, hc, hv, htriaged, hdoc'⟩ :=
      ofJson?_of_marked hmarked ((parse_eq_ok_iff hbody).mp hr)
    exact ⟨c, v, hc, hv, htriaged, (parse_eq_ok_iff hbody').mpr hdoc'⟩

/-- A component with both names of the latest version and one entry, in a document with
further members and the entry with further ones. -/
def presented (further triage : List (String × Json)) : Json :=
  .record (further ++ [("results", .record [("status", .text "R"),
    ("components", .array [.record [("latest-version", .text "1.2"),
      ("latest_version", .text "1.3"),
      ("vulns", .array [.record ([("exact", .bool true)] ++ triage)])]])])])

theorem spells_presented {further triage : List (String × Json)}
    (hf : further = [] ∨ ∃ key, further = [(key, .null)])
    (ht : triage = [] ∨ ∃ key, triage = [(key, .null)]) :
    Json.Spells (presented further triage).compact (presented further triage) := by
  apply Json.spells_compact
  obtain rfl | ⟨_, rfl⟩ := hf <;> obtain rfl | ⟨_, rfl⟩ := ht <;>
    simp [presented, Json.record, Json.text, Json.IsWellFormed, Json.wellFormedMembers,
      Json.wellFormedItems]

theorem isDocument_presented : Wire.IsDocument (presented [] []) where
  self := .inr ⟨_, rfl⟩
  results := .inr ⟨_, rfl⟩
  summary := .inl rfl
  verdict := .inl rfl
  components c hc := by
    obtain rfl := List.mem_singleton.mp hc
    refine ⟨.inr ⟨_, rfl⟩, .inl rfl, fun o ho => absurd ho List.not_mem_nil, fun e he => ?_⟩
    obtain rfl := List.mem_singleton.mp he
    exact ⟨.inr ⟨_, rfl⟩, .inl rfl⟩

theorem presents_note : Presents (presented [] []) (presented [("note", .null)] []) := by
  have hedit : Shape.Edit .document (presented [] []) (presented [("note", .null)] []) :=
    @Shape.Edit.unknown _ _ _ [] _ (List.cons_ne_nil _ _) (by simp [Shape.names, Shape.fields])
  exact .rel _ _ (@Step.edited [] _ _ _ rfl (.here hedit))

theorem marked_presented : At Vulnerability.Marked (entryPath 0 0) (presented [] [])
    (presented [] [("triage", .null)]) := by
  have hentry : Vulnerability.Marked (.record [("exact", .bool true)])
      (.record [("exact", .bool true), ("triage", .null)]) :=
    @Vulnerability.Marked.mk _ [_] [] (by simp)
  have hcomponent := @At.member _ _ (some "vulns") _ _
    [(some "latest-version", .text "1.2"), (some "latest_version", .text "1.3")] []
    (@At.item _ _ _ _ [] [] (.here hentry))
  exact @At.member _ _ _ _ _ [] [] (@At.member _ _ _ _ _ [(some "status", .text "R")] []
    (@At.item _ _ _ _ [] [] hcomponent))

theorem parse_presentation_sample : ∃ r c v,
    parse (presented [] []).compact = .ok r ∧
    parse (presented [("note", .null)] []).compact = .ok r ∧
    r.components[0]? = some c ∧ c.latest = some "1.3" ∧ c.vulnerabilities[0]? = some v ∧
    parse (presented [] [("triage", .null)]).compact = .ok (r.mark 0 0 c v) := by
  have hplain := spells_presented (.inl rfl) (.inl rfl)
  have hnote := spells_presented (.inr ⟨"note", rfl⟩) (.inl rfl)
  have htriage := spells_presented (.inl rfl) (.inr ⟨"triage", rfl⟩)
  obtain ⟨r, hr⟩ : ∃ r, ofJson? (presented [] []) = some r := ⟨_, rfl⟩
  have hok := (parse_eq_ok_iff hplain).mpr hr
  obtain ⟨hsame, hlatest, hmark⟩ := parse_presentation
  obtain ⟨c, v, hc, hv, -, htriaged⟩ := hmark _ _ _ _ r 0 0 hplain htriage hok marked_presented
  obtain ⟨text, k, htext, hk, hkl⟩ :=
    hlatest _ _ r hplain isDocument_presented hok 0 _ rfl Json.noConfusion
  obtain rfl := Option.some.inj (hk.symm.trans hc)
  cases htext
  exact ⟨r, k, v, hok, (hsame _ _ _ _ hplain hnote presents_note).symm.trans hok, hk, hkl, hv,
    htriaged⟩

/-- Half of a surrogate pair as the key of a further member is no text, and the document is
refused. -/
theorem lone_surrogate_refused :
    parse (Json.object [(some "results", .record [("status", .text "R")])]).compact =
        .ok ⟨.ready, .unknown "", "", []⟩ ∧
      parse (Json.object [(some "results", .record [("status", .text "R")]),
        (none, .null)]).compact = .error .malformedReport := by
  have hplain := Json.spells_compact (.object [(some "results", .record [("status", .text "R")])])
    ⟨⟨trivial, trivial⟩, trivial⟩
  have hlone := Json.spells_compact (.object [(some "results", .record [("status", .text "R")]),
    (none, .null)]) ⟨⟨trivial, trivial⟩, trivial, trivial⟩
  refine ⟨(parse_eq_ok_iff hplain).mpr rfl, ?_⟩
  rw [parse, Json.read?_eq_some_iff.mpr hlone]
  rfl

end Report

end ScanGate
