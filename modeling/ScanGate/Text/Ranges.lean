import ScanGate.Text.Hex
import ScanGate.Text.Split

/-! Tables of characters. A table is a text of words between blanks and line ends, with
code points in hexadecimal. The word `41-5A` is a range of characters; `41-5A:61` is a
rule, by which the characters of the range stand for those from `61` on. -/
namespace ScanGate.Text

/-- A number in hexadecimal digits. -/
def hexNumber (cs : List Char) : Nat := cs.foldl (fun n c => 16 * n + (hexValue c).getD 0) 0

def words (s : String) : List (List Char) :=
  (splitAt (fun c => c == ' ' || c == '\n') s.toList).filter fun word => !word.isEmpty

/-! ### Ranges -/

/-- Closed ranges of code points. -/
abbrev Ranges := List (Nat × Nat)

def rangeOfWord (word : List Char) : Nat × Nat :=
  match splitAt (· == '-') word with
  | [first, last] => (hexNumber first, hexNumber last)
  | _ => (hexNumber word, hexNumber word)

def Ranges.ofText (s : String) : Ranges := (words s).map rangeOfWord

def Ranges.contains (rs : Ranges) (c : Char) : Bool :=
  rs.any fun (first, last) => first ≤ c.toNat && c.toNat ≤ last

/-! ### Rules -/

/-- What the characters of a range stand for, from the first on every `step`-th.
If the target is one character, the range is moved there as a whole. -/
structure Rule where
  first : Nat
  last : Nat
  step : Nat
  target : List Nat
  deriving DecidableEq, Repr

namespace Rule

def ofWord (word : List Char) : Rule :=
  let (source, target) := cut (· == ':') word
  let (range, step) := cut (· == '/') source
  let (first, last) := rangeOfWord range
  { first, last
    step := if step.isEmpty then 1 else hexNumber (step.drop 1)
    target := (splitAt (· == ',') (target.drop 1)).map hexNumber }

def image? (r : Rule) (c : Char) : Option (List Char) :=
  let n := c.toNat
  if r.first ≤ n ∧ n ≤ r.last ∧ (n - r.first) % r.step = 0 then
    some <| match r.target with
      | [t] => [Char.ofNat (t + (n - r.first))]
      | ts => ts.map Char.ofNat
  else none

end Rule

abbrev Rules := List Rule

def Rules.ofText (s : String) : Rules := (words s).map Rule.ofWord

/-- What a character stands for, if there is a rule for it. -/
def Rules.find? (rules : Rules) (c : Char) : Option (List Char) :=
  rules.findSome? (·.image? c)

/-- The first character that stands for these. -/
def Rules.source? (rules : Rules) (cs : List Char) : Option Char :=
  (List.find? (fun r => r.target == cs.map Char.toNat) rules).map fun r => Char.ofNat r.first

end ScanGate.Text
