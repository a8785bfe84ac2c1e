/-! Punycode: a label of any characters as ASCII. The characters below 128 come
first; the others follow in ascending order, each as the distance from the one
before it, written in a base of 36 with variable digit bounds. Reading keeps to
numbers of 32 bits. -/
namespace ScanGate.Punycode

def digit (d : Nat) : Char := if d < 26 then Char.ofNat (97 + d) else Char.ofNat (22 + d)

/-- The digit bound at place `k`, between 1 and 26. -/
def bound (k bias : Nat) : Nat :=
  if k ≤ bias then 1 else if bias + 26 ≤ k then 26 else k - bias

theorem bound_pos (k bias : Nat) : 1 ≤ bound k bias := by unfold bound; split <;> grind

/-- A distance as digits, the least significant first. -/
def writeDigits (bias k q : Nat) : List Char :=
  let t := bound k bias
  if q < t then [digit q]
  else digit (t + (q - t) % (36 - t)) :: writeDigits bias (k + 36) ((q - t) / (36 - t))
termination_by q
decreasing_by
  have h1 := bound_pos k bias
  exact Nat.lt_of_le_of_lt (Nat.div_le_self _ _) (by omega)

def shrink (delta k : Nat) : Nat × Nat :=
  if 455 < delta then shrink (delta / 35) (k + 36) else (delta, k)
termination_by delta
decreasing_by exact Nat.div_lt_self (by omega) (by omega)

/-- The bias after a distance has been written. -/
def adapt (delta count : Nat) (first : Bool) : Nat :=
  let delta := if first then delta / 700 else delta / 2
  let (delta, k) := shrink (delta + delta / count) 0
  k + 36 * delta / (delta + 38)

/-! ### Writing -/

structure State where
  out : List Char
  delta : Nat
  bias : Nat
  handled : Nat

/-- Passes over one character of the label in the round for code point `n`. -/
def visit (basic n : Nat) (s : State) (c : Char) : State :=
  if c.toNat < n then { s with delta := s.delta + 1 }
  else if c.toNat = n then
    { out := s.out ++ writeDigits s.bias 36 s.delta
      delta := 0
      bias := adapt s.delta (s.handled + 1) (s.handled == basic)
      handled := s.handled + 1 }
  else s

/-- One round for every code point that is not ASCII, in ascending order. -/
def rounds (label : List Char) (basic : Nat) : List Nat → (next : Nat) → State → State
  | [], _, s => s
  | n :: rest, next, s =>
    let s := { s with delta := s.delta + (n - next) * (s.handled + 1) }
    let s := label.foldl (visit basic n) s
    rounds label basic rest (n + 1) { s with delta := s.delta + 1 }

def insert (x : Nat) : List Nat → List Nat
  | [] => [x]
  | y :: ys => if x < y then x :: y :: ys else if x = y then y :: ys else y :: insert x ys

def encode (label : List Char) : List Char :=
  let plain := label.filter (·.toNat < 128)
  let others := (label.filter (128 ≤ ·.toNat)).foldl (fun ns c => insert c.toNat ns) []
  let start := if plain.isEmpty then [] else plain ++ ['-']
  (rounds label plain.length others 128 ⟨start, 0, 72, plain.length⟩).out

/-! ### Reading -/

/-- The value of a digit, in either case. -/
def digitValue? (c : Char) : Option Nat :=
  if c.isLower then some (c.toNat - 97)
  else if c.isUpper then some (c.toNat - 65)
  else if c.isDigit then some (c.toNat - 22)
  else none

def maxNumber : Nat := 0xFFFFFFFF

/-- A label in the making: the characters so far, the last code point, where the
distance that is being read starts, and how far it has come. -/
structure Draft where
  out : List Char
  code : Nat := 128
  bias : Nat := 72
  start : Nat := 0
  index : Nat := 0
  place : Nat := 36
  weight : Nat := 1

/-- Puts in the character at the end of a distance. -/
def Draft.put (s : Draft) : Option Draft :=
  let count := s.out.length + 1
  let code := s.code + s.index / count
  let i := s.index % count
  if code.isValidChar then
    some {
      out := s.out.insertIdx i (Char.ofNat code), code
      bias := adapt (s.index - s.start) count (s.start == 0)
      start := i + 1, index := i + 1 }
  else none

/-- Reads a digit. A digit below its bound ends the distance. -/
def Draft.read (s : Draft) (c : Char) : Option Draft := do
  let d ← digitValue? c
  let t := bound s.place s.bias
  if (maxNumber - s.index) / s.weight < d then none
  let s := { s with index := s.index + d * s.weight }
  if d < t then s.put
  else if maxNumber / (36 - t) < s.weight then none
  else return { s with place := s.place + 36, weight := s.weight * (36 - t) }

/-- The label with this ASCII form. -/
def decode? (cs : List Char) : Option (List Char) := do
  let back := cs.reverse
  let (basic, digits) ← match back.dropWhile (· != '-') with
    | [] => some ([], cs)
    | [_] => none
    | _ :: front => some (front.reverse, (back.takeWhile (· != '-')).reverse)
  let s ← digits.foldlM Draft.read { out := basic }
  if s.place = 36 then return s.out else none

end ScanGate.Punycode
