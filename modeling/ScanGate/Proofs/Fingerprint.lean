import Mathlib.Data.List.Basic
import ScanGate.Proofs.Digest
import ScanGate.Proofs.Evaluation.Groups

/-! What a fingerprint tells about a layout. The digest is taken of all segments of all
places, run together, so of a layout it sees the text that this spells and nothing else:
neither where a segment ends nor where a place does. Two layouts are told apart exactly
when they spell different texts, as long as the digest itself does not collide, and then
the waivers of the one are stale for the other. A new place goes unnoticed when it spells
nothing, and an exchange of two places when both, each with what lies between them,
repeat one word. -/
namespace ScanGate

/-! ### Words that commute -/

/-- Two words that commute repeat one word. The recursion takes the shorter one off the
front of the longer one. -/
theorem exists_repeated_of_append_comm {α : Type} : ∀ {x y : List α}, x ++ y = y ++ x →
    ∃ u m n, x = (List.replicate m u).flatten ∧ y = (List.replicate n u).flatten
  | [], y, _ => ⟨y, 0, 1, by simp, by simp⟩
  | x, [], _ => ⟨x, 1, 0, by simp, by simp⟩
  | a :: x, b :: y, h => by
    obtain ⟨rest, hy, hx⟩ | ⟨rest, hx, hy⟩ := List.append_eq_append_iff.mp h
    · have hlen : y.length = x.length + rest.length := by
        simpa using congrArg List.length hy
      obtain ⟨u, m, n, hm, hn⟩ := exists_repeated_of_append_comm (hy.symm.trans hx)
      refine ⟨u, m, m + n, hm, ?_⟩
      rw [hy, List.replicate_add, List.flatten_append, ← hm, ← hn]
    · have hlen : x.length = y.length + rest.length := by
        simpa using congrArg List.length hx
      obtain ⟨u, m, n, hm, hn⟩ := exists_repeated_of_append_comm (hx.symm.trans hy)
      refine ⟨u, m + n, m, ?_, hm⟩
      rw [hx, List.replicate_add, List.flatten_append, ← hm, ← hn]
  termination_by x y => x.length + y.length

theorem append_comm_iff_repeated {α : Type} {x y : List α} : x ++ y = y ++ x ↔
    ∃ u m n, x = (List.replicate m u).flatten ∧ y = (List.replicate n u).flatten := by
  constructor
  · exact exists_repeated_of_append_comm
  · rintro ⟨u, m, n, rfl, rfl⟩
    rw [← List.flatten_append, ← List.flatten_append, ← List.replicate_add, ← List.replicate_add,
      Nat.add_comm]

/-! ### What a layout spells -/

namespace Place

/-- All segments of all places, run together. -/
def spelling (places : List Place) : List Char := (places.flatMap id).flatMap String.toList

/-- The bytes that the digest is taken of. -/
def message (places : List Place) : List UInt8 := (String.ofList (joined places)).toUTF8.toList

variable {ps qs as bs cs : List Place} {p q : Place}

@[simp] theorem spelling_cons : spelling (p :: ps) = p.flatMap String.toList ++ spelling ps := by
  simp [spelling]

@[simp] theorem spelling_append : spelling (ps ++ qs) = spelling ps ++ spelling qs := by
  simp [spelling]

theorem message_eq_iff : message ps = message qs ↔ spelling ps = spelling qs := by
  rw [message, message, Text.toUTF8_toList_inj, String.ofList_inj, joined, joined,
    List.cons_inj_right]
  rfl

theorem fingerprint_eq_iff :
    fingerprint ps = fingerprint qs ↔ Sha1.digest (message ps) = Sha1.digest (message qs) := by
  rw [fingerprint, fingerprint, String.ofList_inj, Sha1.hex_eq_iff]
  rfl

/-- A new place is noticed when one of its segments is not empty. -/
theorem spelling_insert_iff :
    spelling (as ++ p :: bs) = spelling (as ++ bs) ↔ ∀ s ∈ p, s = "" := by
  rw [spelling_append, spelling_append, List.append_cancel_left_eq, spelling_cons,
    List.append_left_eq_self, List.flatMap_eq_nil_iff]
  simp only [String.toList_eq_nil_iff]

/-- An exchange is noticed when the two places, each with what lies between them, do not
repeat one word. -/
theorem spelling_exchange_iff :
    spelling (as ++ p :: bs ++ q :: cs) = spelling (as ++ q :: bs ++ p :: cs) ↔
      ∃ u m n, spelling (p :: bs) = (List.replicate m u).flatten ∧
        spelling (q :: bs) = (List.replicate n u).flatten := by
  rw [← append_comm_iff_repeated]
  simp only [spelling_append, spelling_cons, List.append_assoc, List.append_cancel_left_eq]
  -- Both sides agree once what follows is dropped and the part in between is added.
  simp only [← List.append_assoc, List.append_cancel_right_eq]

end Place

/-! ### Stale waivers -/

namespace Evaluation

variable {c : Component} {t : Threshold}

theorem fingerprint_of_mem_findings {f : Finding} (h : f ∈ findings [c] t) :
    f.fingerprint = Place.fingerprint c.places := by
  obtain ⟨d, hd, -, -, v, -, -, rfl⟩ := mem_findings.mp h
  obtain rfl := List.mem_singleton.mp hd
  rfl

/-- A suggested waiver leaves a finding of the same issue active exactly when the two
components differ in their fingerprints. -/
theorem active_under_suggestion_iff {d : Component} {u : Threshold} {f g : Finding}
    (hf : f ∈ findings [c] t) (hg : g ∈ findings [d] u) (hsame : f.SameIssue g) :
    g ∈ (ofComponents [d] u f.suggestion).active ↔
      Place.fingerprint c.places ≠ Place.fingerprint d.places := by
  rw [mem_active, Finding.suggestion, List.mem_singleton, eq_comm, Finding.waiver_eq_iff,
    fingerprint_of_mem_findings hf, fingerprint_of_mem_findings hg]
  constructor
  · rintro ⟨-, hstale⟩ heq
    exact hstale ⟨hsame, heq⟩
  · intro hne
    exact ⟨hg, fun h => hne h.2⟩

end Evaluation

namespace Place

open Evaluation

/-- Two layouts on which the digest does not collide are told apart exactly when they
spell different texts: then, and only then, the bytes and the fingerprints differ, and a
waiver suggested under the one layout is stale under the other. A place that is added or
removed makes a difference exactly when it has a segment that is not empty, and an
exchange of two places exactly when the two, each with what lies between them, do not
repeat one word. -/
theorem told_apart_iff (ps qs : List Place)
    (hdigest : Sha1.digest (message ps) = Sha1.digest (message qs) → message ps = message qs) :
    (message ps ≠ message qs ↔ spelling ps ≠ spelling qs) ∧
    (fingerprint ps ≠ fingerprint qs ↔ spelling ps ≠ spelling qs) ∧
    (∀ c d : Component, c.places = ps → d.places = qs →
      ∀ t u, ∀ f ∈ (ofComponents [c] t []).active, ∀ g ∈ findings [d] u, f.SameIssue g →
        (g ∈ (ofComponents [d] u f.suggestion).active ↔ spelling ps ≠ spelling qs)) ∧
    (∀ as p bs, message (as ++ p :: bs) ≠ message (as ++ bs) ↔ ∃ s ∈ p, s ≠ "") ∧
    ∀ as p bs q cs, message (as ++ p :: bs ++ q :: cs) ≠ message (as ++ q :: bs ++ p :: cs) ↔
      ¬ ∃ u m n, spelling (p :: bs) = (List.replicate m u).flatten ∧
        spelling (q :: bs) = (List.replicate n u).flatten := by
  have hfingerprint : fingerprint ps ≠ fingerprint qs ↔ spelling ps ≠ spelling qs := by
    rw [ne_eq, fingerprint_eq_iff, ne_eq, ← message_eq_iff]
    exact not_congr ⟨hdigest, congrArg Sha1.digest⟩
  refine ⟨not_congr message_eq_iff, hfingerprint, ?_, ?_, ?_⟩
  · rintro c d rfl rfl t u f hf g hg hsame
    rw [active_under_suggestion_iff (mem_active.mp hf).1 hg hsame]
    exact hfingerprint
  · intro as p bs
    rw [ne_eq, message_eq_iff, spelling_insert_iff]
    simp only [not_forall, exists_prop, ne_eq]
  · intro as p bs q cs
    rw [ne_eq, message_eq_iff, spelling_exchange_iff]

/-- A component in two archives. -/
def embedded : Component where
  library := "libfoo"
  version := some "1.0"
  places := [["a.bin", "/x.so"], ["b.bin", "/y.so"]]
  total := 1
  vulnerabilities := [{ cve := "CVE-2020-1111", score := .ofNat 7 }]

theorem told_apart_embedded :
    let moved := { embedded with places := [["b.bin", "/y.so"], ["a.bin", "/x.so"]] }
    fingerprint embedded.places ≠ fingerprint moved.places ∧
      (ofComponents [embedded] .standard []).active.length = 1 ∧
      (findings [moved] .standard).length = 1 ∧
      ∀ f ∈ (ofComponents [embedded] .standard []).active, ∀ g ∈ findings [moved] .standard,
        f.SameIssue g → g ∈ (ofComponents [moved] .standard f.suggestion).active := by
  intro moved
  have hdigest : Sha1.digest (message embedded.places) ≠ Sha1.digest (message moved.places) := by
    decide +kernel
  have hspelling : spelling embedded.places ≠ spelling moved.places := by decide +kernel
  obtain ⟨-, hfingerprint, hstale, -, -⟩ :=
    told_apart_iff embedded.places moved.places fun h => absurd h hdigest
  refine ⟨hfingerprint.mpr hspelling, by decide +kernel, by decide +kernel, ?_⟩
  intro f hf g hg hsame
  exact (hstale embedded moved rfl rfl _ _ f hf g hg hsame).mpr hspelling

/-- An archive inside one of the same name: when the two places are exchanged, the digest
gets the same bytes, and the waiver suggested before still suppresses the finding. -/
theorem exchange_unnoticed :
    let before := { embedded with places := [["a.bin"], ["a.bin", "a.bin"]] }
    let after := { embedded with places := [["a.bin", "a.bin"], ["a.bin"]] }
    before.places ≠ after.places ∧ message before.places = message after.places ∧
      (ofComponents [before] .standard []).active.length = 1 ∧
      ∀ f ∈ (ofComponents [before] .standard []).active,
        (ofComponents [after] .standard f.suggestion).active = [] ∧
          (ofComponents [after] .standard f.suggestion).suppressed = [f] := by
  decide +kernel

end Place

end ScanGate
