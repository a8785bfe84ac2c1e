import ScanGate.Text.Composition.Table

/-! Composed text. A letter and a mark behind it are one character where there is
one for both, also across marks that do not touch; marks that stay are put in the
order of their classes. Composing takes the text apart first, so that it comes out
the same however it was put together. -/
namespace ScanGate.Text.Composition

/-- The marks of each class. -/
def orders : List (Nat × Ranges) := classes.map fun (order, text) => (order, .ofText text)

/-- The class of a mark; zero for every other character. -/
def order (c : Char) : Nat :=
  if c.toNat < 0x300 then 0
  else ((orders.find? (·.2.contains c)).map (·.1)).getD 0

/-! ### Syllables

The syllables of Hangul are numbered by their two or three parts. -/

def firstSyllable : Nat := 0xAC00
def firstLead : Nat := 0x1100
def firstVowel : Nat := 0x1161
/-- One before the first of the parts at the end. -/
def noTail : Nat := 0x11A7
def vowelCount : Nat := 21
def tailCount : Nat := 28

def syllableParts? (c : Char) : Option (List Char) :=
  let i := c.toNat - firstSyllable
  if firstSyllable ≤ c.toNat ∧ i < 19 * vowelCount * tailCount then
    let lead := Char.ofNat (firstLead + i / tailCount / vowelCount)
    let vowel := Char.ofNat (firstVowel + i / tailCount % vowelCount)
    some (if i % tailCount = 0 then [lead, vowel]
      else [lead, vowel, Char.ofNat (noTail + i % tailCount)])
  else none

def syllable? (a b : Char) : Option Char :=
  let lead := a.toNat - firstLead
  let vowel := b.toNat - firstVowel
  let block := a.toNat - firstSyllable
  let tail := b.toNat - noTail
  if firstLead ≤ a.toNat ∧ lead < 19 ∧ firstVowel ≤ b.toNat ∧ vowel < vowelCount then
    some (Char.ofNat (firstSyllable + (lead * vowelCount + vowel) * tailCount))
  else if firstSyllable ≤ a.toNat ∧ block < 19 * vowelCount * tailCount ∧ block % tailCount = 0 ∧
      noTail < b.toNat ∧ tail < tailCount then
    some (Char.ofNat (a.toNat + tail))
  else none

/-! ### Taking apart -/

/-- The parts of a character; at most three marks stand behind the first. -/
def parts : (fuel : Nat) → Char → List Char
  | 0, c => [c]
  | fuel + 1, c =>
    match syllableParts? c with
    | some cs => cs
    | none =>
      match pairs.find? c with
      | some [a, b] => parts fuel a ++ [b]
      | _ => [c]

/-- Puts a character behind a text in reverse; a mark goes before those of higher
classes. -/
def place (c : Char) : List Char → List Char
  | [] => [c]
  | x :: xs => if order c ≠ 0 ∧ order c < order x then x :: place c xs else c :: x :: xs

def separate (cs : List Char) : List Char :=
  ((cs.flatMap (parts 3)).foldl (fun out c => place c out) []).reverse

/-! ### Putting together -/

/-- The character that is made of two. -/
def joined? (a b : Char) : Option Char :=
  match syllable? a b with
  | some c => some c
  | none => pairs.source? [a, b]

/-- A text in the making: what is finished, the last character that is no mark, and
the marks behind it, both texts in reverse. -/
structure Draft where
  done : List Char := []
  base : Option Char := none
  marks : List Char := []

/-- Adds a character. It is joined unless a mark of the same class or a higher one
stands between. -/
def Draft.add (t : Draft) (c : Char) : Draft :=
  match t.base with
  | none => if order c = 0 then { t with base := some c } else { t with done := c :: t.done }
  | some a =>
    match if t.marks.head?.all (order · < order c) then joined? a c else none with
    | some b => { t with base := some b }
    | none =>
      if order c = 0 then { done := t.marks ++ a :: t.done, base := some c }
      else { t with marks := c :: t.marks }

def Draft.text (t : Draft) : List Char := (t.marks ++ t.base.toList ++ t.done).reverse

/-- The composed form of a text. Below the first mark nothing changes. -/
def compose (cs : List Char) : List Char :=
  if cs.all (·.toNat < 0x300) then cs else ((separate cs).foldl Draft.add {}).text

end ScanGate.Text.Composition
