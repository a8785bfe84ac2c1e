import ScanGate.Proofs.Json.Edits
import ScanGate.Report

/-! A member for triage in one entry of a report. Whatever its value, the entry becomes
triaged. Every record around it takes over what is decoded in it and leaves the rest as it
is, one step for the entry, the component, the results and the document. -/
namespace ScanGate

open Json (At Key Regular valuesAt)

variable {v v' : Json} {i j : Nat}

/-- A member for triage, where there is none. -/
inductive Vulnerability.Marked : Json → Json → Prop
  | mk {value : Json} {before after : List (Option String × Json)}
      (habsent : ∀ member ∈ before ++ after, member.1 ≠ some "triage") :
      Marked (.object (before ++ after)) (.object (before ++ (some "triage", value) :: after))

namespace Report

/-- The path to an entry of a component. -/
def entryPath (i j : Nat) : List Key :=
  [.member (some "results"), .member (some "components"), .item i, .member (some "vulns"),
    .item j]

theorem vulnerability?_of_marked {x : Vulnerability} (h : Vulnerability.Marked v v')
    (hx : vulnerability? v = some x) :
    x.triaged = false ∧ vulnerability? v' = some { x with triaged := true } := by
  obtain @⟨value, before, after, habsent⟩ := h
  simp only [vulnerability?, Option.bind_eq_bind, Option.bind_eq_some_iff,
    Json.fields_object_eq_some_iff] at hx
  obtain ⟨_, ⟨hr, rfl⟩, hx⟩ := hx
  have hnone : Json.member? "triage" (before ++ after) = none := by
    rw [Json.member?_eq_head?, Json.valuesAt_eq_nil habsent]
    rfl
  have hfields := (Json.fields_object _ _).mpr ((Json.regular_insert habsent value).mpr hr)
  simp only [List.map_cons, List.map_nil, hnone, Json.member?_insert_self habsent] at hx hfields
  rw [Json.member?_insert_ne (by decide), Json.member?_insert_ne (by decide)] at hfields
  obtain ⟨details, hdetails, hx⟩ := Option.bind_eq_some_iff.mp hx
  simp only [vulnerability?, hfields, Option.bind_eq_bind, Option.bind_some, hdetails]
  cases hmark : Json.member? "exact" (before ++ after) with
  | none =>
    rw [hmark] at hx
    cases hx
    exact ⟨rfl, rfl⟩
  | some mark =>
    rw [hmark] at hx
    obtain ⟨exact, hexact, hx⟩ := Option.bind_eq_some_iff.mp hx
    cases hx
    simp only [hexact]
    exact ⟨rfl, rfl⟩

/-- The component takes over its entries. -/
theorem component?_replace {before after : List (Option String × Json)} {items : List Json}
    {c : Component}
    (h : component? (.object (before ++ (some "vulns", .array items) :: after)) = some c) :
    Json.list vulnerability? (.array items) = some c.vulnerabilities ∧ ∀ items' vs,
      Json.list vulnerability? (.array items') = some vs →
        component? (.object (before ++ (some "vulns", .array items') :: after)) =
          some { c with vulnerabilities := vs } := by
  simp only [component?, Option.bind_eq_bind, Option.bind_eq_some_iff] at h
  obtain ⟨fs, hfs, h⟩ := h
  obtain ⟨found, rfl, hreplace⟩ := Json.fields_replace (by simp) hfs
  simp only [List.map_cons, List.map_nil, String.reduceEq, if_false, if_true,
    Option.bind_eq_some_iff] at h hreplace
  obtain ⟨counts, hcounts, underscored, hu, dashed, hd, lib, hlib, version, hver, ps, hps, vs,
    hvs, h⟩ := h
  rw [Json.orDefault_of_ne_null Json.noConfusion] at hvs
  cases h
  refine ⟨hvs, fun items' vs' hvs' => ?_⟩
  simp only [component?, hreplace, Option.bind_eq_bind, Option.bind_some, hcounts, hu, hd, hlib,
    hver, hps, Json.orDefault_of_ne_null (@Json.noConfusion _ (.array items') .null), hvs']
  rfl

/-- The results take over their components. -/
theorem results?_replace {before after : List (Option String × Json)} {items : List Json}
    {r : Report}
    (h : results? (.object (before ++ (some "components", .array items) :: after)) = some r) :
    Json.list component? (.array items) = some r.components ∧ ∀ items' cs,
      Json.list component? (.array items') = some cs →
        results? (.object (before ++ (some "components", .array items') :: after)) =
          some { r with components := cs } := by
  simp only [results?, Option.bind_eq_bind, Option.bind_eq_some_iff] at h
  obtain ⟨fs, hfs, h⟩ := h
  obtain ⟨found, rfl, hreplace⟩ := Json.fields_replace (by simp) hfs
  simp only [List.map_cons, List.map_nil, String.reduceEq, if_false, if_true,
    Option.bind_eq_some_iff] at h hreplace
  obtain ⟨code, hcode, summary, hsummary, cs, hcs, h⟩ := h
  rw [Json.orDefault_of_ne_null Json.noConfusion] at hcs
  cases h
  refine ⟨hcs, fun items' cs' hcs' => ?_⟩
  have hne : Json.array items' ≠ .null := Json.noConfusion
  simp only [results?, hreplace, Option.bind_eq_bind, Option.bind_some, hcode, hsummary,
    Json.orDefault_of_ne_null hne, hcs']
  rfl

theorem ofJson?_replace {before after : List (Option String × Json)} {r : Report}
    (h : ofJson? (.object (before ++ (some "results", v) :: after)) = some r) :
    results? v = some r ∧ ∀ v',
      ofJson? (.object (before ++ (some "results", v') :: after)) = results? v' := by
  simp only [ofJson?, Option.bind_eq_bind, Option.bind_eq_some_iff] at h
  obtain ⟨fs, hfs, h⟩ := h
  obtain ⟨found, rfl, hreplace⟩ := Json.fields_replace (by simp) hfs
  simp only [List.map_cons, List.map_nil, if_true] at h hreplace
  refine ⟨h, fun v' => ?_⟩
  simp only [ofJson?, hreplace, Option.bind_eq_bind, Option.bind_some]
  rfl

/-- The mark of one vulnerability. -/
def mark (r : Report) (i j : Nat) (c : Component) (v : Vulnerability) : Report :=
  { r with
    components := r.components.set i
      { c with vulnerabilities := c.vulnerabilities.set j { v with triaged := true } } }

/-- A member for triage in an entry of an accepted report marks that one vulnerability, which
was not marked before. -/
theorem ofJson?_of_marked {r : Report} {doc doc' : Json}
    (h : At Vulnerability.Marked (entryPath i j) doc doc') (hr : ofJson? doc = some r) :
    ∃ c v, r.components[i]? = some c ∧ c.vulnerabilities[j]? = some v ∧ v.triaged = false ∧
      ofJson? doc' = some (r.mark i j c v) := by
  cases h with | member h =>
  cases h with | member h =>
  cases h with | @item _ _ _ before _ h =>
  cases h with | member h =>
  cases h with | @item _ _ _ before' _ h =>
  cases h with | here h =>
  obtain ⟨hresults, hdoc'⟩ := ofJson?_replace hr
  obtain ⟨hcomponents, hresults'⟩ := results?_replace hresults
  obtain ⟨c, hc, hi, hset⟩ := Json.list_replace hcomponents
  obtain ⟨hvulns, hc'⟩ := component?_replace hc
  obtain ⟨v, hv, hj, hset'⟩ := Json.list_replace hvulns
  obtain ⟨htriaged, hv'⟩ := vulnerability?_of_marked h hv
  have hcomponent := hc' _ _ (hset' _ _ hv')
  refine ⟨c, v, hi, hj, htriaged, ?_⟩
  rw [hdoc', hresults' _ _ (hset _ _ hcomponent)]
  rfl

end Report

end ScanGate
