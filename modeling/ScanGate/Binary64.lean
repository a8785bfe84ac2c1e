/-! Double precision numbers, exactly. A finite number is a sign, a mantissa
below 2^53 and a count of binary places above the least, so that its value is
`± mantissa · 2^(exponent - 1074)`. Rounding takes the nearest number and, of
two equally near ones, the one with the even mantissa. All arithmetic is on
natural numbers. -/
namespace ScanGate

inductive Binary64 where
  | nan
  | infinite (negative : Bool)
  | finite (negative : Bool) (mantissa exponent : Nat)
  deriving DecidableEq, Repr

/-- The nearest whole number to a quotient; a half goes to the even neighbour. -/
def roundDiv (num den : Nat) : Nat :=
  let q := num / den
  let r := num % den
  if den < 2 * r || (2 * r == den && q % 2 == 1) then q + 1 else q

namespace Binary64

def mantissaBits : Nat := 53

/-- The exponent of the numbers just below the overflow bound. -/
def maxExponent : Nat := 2045

/-- Minus the binary exponent of the least positive number. -/
def scale : Nat := 1074

def zero : Binary64 := finite false 0 0

instance : Inhabited Binary64 := ⟨zero⟩

/-- The number nearest to `± num / den`. -/
def ofRatio (negative : Bool) (num den : Nat) : Binary64 :=
  let scaled := num * Nat.pow 2 scale
  let exponent := Nat.log2 (scaled / den) - (mantissaBits - 1)
  let mantissa := roundDiv scaled (den * Nat.pow 2 exponent)
  let carried := mantissa == Nat.pow 2 mantissaBits
  let mantissa := if carried then Nat.pow 2 (mantissaBits - 1) else mantissa
  let exponent := if carried then exponent + 1 else exponent
  if maxExponent < exponent then infinite negative else finite negative mantissa exponent

def ofNat (n : Nat) : Binary64 := ofRatio false n 1

def ofInt (i : Int) : Binary64 := ofRatio (i < 0) i.natAbs 1

/-- The number nearest to the power of ten, infinite beyond the 308th. -/
def powerOfTen (k : Nat) : Binary64 := ofNat (Nat.pow 10 k)

/-- The rounded product of two numbers that are not negative and not infinite. -/
def times : Binary64 → Binary64 → Binary64
  | finite _ m e, finite _ n f => ofRatio false (m * n * Nat.pow 2 (e + f)) (Nat.pow 2 (2 * scale))
  | _, _ => nan

/-- The rounded quotient of two numbers that are not negative and not infinite. -/
def dividedBy : Binary64 → Binary64 → Binary64
  | finite _ m e, finite _ n f =>
    if n = 0 then nan else ofRatio false (m * Nat.pow 2 e) (n * Nat.pow 2 f)
  | _, _ => nan

def negate : Binary64 → Binary64
  | nan => nan
  | infinite negative => infinite !negative
  | finite negative m e => finite (!negative) m e

def isZero : Binary64 → Bool
  | finite _ 0 _ => true
  | _ => false

def isInfinite : Binary64 → Bool
  | infinite _ => true
  | _ => false

/-- Whether the number is `n` or more. -/
def atLeast : Binary64 → Nat → Bool
  | nan, _ => false
  | infinite negative, _ => !negative
  | finite negative m e, n => (!negative || m == 0) && n * Nat.pow 2 scale ≤ m * Nat.pow 2 e

end Binary64

end ScanGate
