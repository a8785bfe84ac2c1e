import ScanGate.Json.Basic
import ScanGate.Decimal.Layout

/-! The value of a number literal. A literal without point and exponent that
fits in 64 bits, signed when negative, is an integer; every other one is a
double. To find the double, the leading digits that fit in 64 bits are kept as
the significand, the digits after them are dropped (those before the point still
count for the exponent), and the significand is scaled by a power of ten, each
step rounded. A literal beyond the greatest double has no value. -/
namespace ScanGate.Json

inductive Number where
  | natural (n : Nat)
  | negative (n : Nat)
  | real (x : Binary64)
  deriving DecidableEq, Repr

/-- A literal taken apart: the digits before and after the point, and the
exponent with its sign. -/
structure Parts where
  minus : Bool
  whole : List Char
  fraction : Option (List Char)
  exponent : Option (Bool × List Char)
  deriving DecidableEq, Repr

def Parts.ofLiteral (literal : List Char) : Parts :=
  let (minus, cs) := match literal with
    | '-' :: rest => (true, rest)
    | cs => (false, cs)
  let whole := cs.takeWhile Char.isDigit
  let (fraction, cs) := match cs.dropWhile Char.isDigit with
    | '.' :: rest => (some (rest.takeWhile Char.isDigit), rest.dropWhile Char.isDigit)
    | cs => (none, cs)
  let exponent := match cs with
    | _ :: '-' :: digits => some (true, digits)
    | _ :: '+' :: digits => some (false, digits)
    | _ :: digits => some (false, digits)
    | [] => none
  ⟨minus, whole, fraction, exponent⟩

def digit (c : Char) : Nat := c.toNat - 48

/-- Digits as a number. -/
def ofDigits (cs : List Char) : Nat := cs.foldl (fun n c => 10 * n + digit c) 0

/-- Appends digits to a significand while it stays below 2^64, and returns the
digits that no longer fit. -/
def gather (n : Nat) : List Char → Nat × List Char
  | [] => (n, [])
  | c :: cs =>
    if 10 * n + digit c < Nat.pow 2 64 then gather (10 * n + digit c) cs else (n, c :: cs)

/-- The greatest power of ten that scales in one step. -/
def greatestPower : Nat := 308

/-- Divides by `10^k`, first by `10^308` as often as needed. -/
def scaleDown (x : Binary64) (k : Nat) : Binary64 :=
  if x.isZero then x
  else if greatestPower < k then
    scaleDown (x.dividedBy (.powerOfTen greatestPower)) (k - greatestPower)
  else x.dividedBy (.powerOfTen k)
termination_by k
decreasing_by simp [greatestPower] at *; omega

/-- The significand times `10^exponent`, unless that is beyond every double. -/
def scaled (significand : Nat) (exponent : Int) : Option Binary64 :=
  let x := Binary64.ofNat significand
  match exponent with
  | .negSucc k => some (scaleDown x (k + 1))
  | .ofNat k =>
    if greatestPower < k then if x.isZero then some x else none
    else
      let y := x.times (.powerOfTen k)
      if y.isInfinite then none else some y

/-- Exponents are counted up to here. -/
def exponentBound : Nat := Nat.pow 2 31

/-- Adds the written exponent to the one that the point gives. -/
def scaledBy (significand : Nat) (start : Int) : Option (Bool × List Char) → Option Binary64
  | none => scaled significand start
  | some (below, digits) =>
    let n := ofDigits digits
    if exponentBound ≤ n then
      if significand ≠ 0 ∧ !below then none else some .zero
    else scaled significand (if below then start - n else start + n)

/-- The magnitude of a literal that is not an integer of 64 bits. -/
def Parts.magnitude (p : Parts) : Option Binary64 :=
  let (significand, dropped) := gather 0 p.whole
  match p.fraction with
  | none => scaledBy significand dropped.length p.exponent
  | some fraction =>
    let (significand, rest) := gather significand fraction
    scaledBy significand (dropped.length - (fraction.length - rest.length : Nat)) p.exponent

/-- Whether the literal has neither point nor exponent. -/
def Parts.isWhole (p : Parts) : Bool := p.fraction.isNone && p.exponent.isNone

def Parts.value (p : Parts) : Option Number :=
  let n := ofDigits p.whole
  if p.isWhole ∧ !p.minus ∧ n < Nat.pow 2 64 then some (.natural n)
  else if p.isWhole ∧ p.minus ∧ 0 < n ∧ n ≤ Nat.pow 2 63 then some (.negative n)
  else p.magnitude.map fun x => .real (if p.minus then x.negate else x)

def numberOf (literal : String) : Option Number := (Parts.ofLiteral literal.toList).value

namespace Number

def toBinary64 : Number → Binary64
  | natural n => Binary64.ofNat n
  | negative n => Binary64.ofRatio true n 1
  | real x => x

/-- The number written again: integers in full, doubles by their shortest decimal. -/
def text : Number → String
  | natural n => toString n
  | negative n => "-" ++ toString n
  | real x => String.ofList ((Decimal.ofBinary64 Decimal.jsonLayout x).getD [])

end Number

/-- A double as a JSON value; `null` if it is not finite. -/
def real (x : Binary64) : Json :=
  match Decimal.ofBinary64 Decimal.jsonLayout x with
  | some literal => number (String.ofList literal)
  | none => null

end ScanGate.Json
