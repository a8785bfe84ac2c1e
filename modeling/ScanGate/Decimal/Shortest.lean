import ScanGate.Binary64

/-! Shortest decimals. `shortest` finds the decimal with the fewest digits that
rounds back to a given double, and of those the nearest to it; of two equally near
ones the one with the even last digit. For each number of digits the two neighbours
of the value on that decimal grid are tried: if any point of a grid rounds back, so
does one of these two. -/
namespace ScanGate.Decimal

/-- The number `digits · 10^exponent`. -/
structure Numeral where
  digits : Nat
  exponent : Int
  deriving DecidableEq, Repr

/-- The number of decimal digits of `n`; zero has one. -/
def width (n : Nat) : Nat := (Nat.toDigits 10 n).length

/-- The interval of reals that round to a double, each bound over a common
denominator; the ends belong to it when the mantissa is even. -/
structure Interval where
  value : Nat
  low : Nat
  high : Nat
  denominator : Nat
  closed : Bool

/-- The interval around `mantissa · 2^(exponent - 1074)`. Below a power of two
the gap to the next double is half as wide. -/
def Interval.around (mantissa exponent : Nat) : Interval :=
  let unit := Nat.pow 2 exponent
  let below := if mantissa = Nat.pow 2 52 ∧ 0 < exponent then unit else 2 * unit
  { value := 4 * mantissa * unit
    low := 4 * mantissa * unit - below
    high := 4 * mantissa * unit + 2 * unit
    denominator := Nat.pow 2 (Binary64.scale + 2)
    closed := mantissa % 2 == 0 }

/-- The exponent `k` with `10^k ≤ num / den < 10^(k+1)`, for a positive quotient. -/
def leadingExponent (num den : Nat) : Int :=
  if den ≤ num then width (num / den) - 1
  else
    let t := width (den / num)
    if den ≤ num * Nat.pow 10 (t - 1) then -((t : Int) - 1) else -t

/-- Whether `num / den` lies in the interval. -/
def Interval.holds (i : Interval) (num den : Nat) : Bool :=
  let x := num * i.denominator
  let low := i.low * den
  let high := i.high * den
  if i.closed then low ≤ x && x ≤ high else low < x && x < high

/-- The decimal as a quotient. -/
def Numeral.ratio (d : Numeral) : Nat × Nat :=
  match d.exponent with
  | .ofNat p => (d.digits * Nat.pow 10 p, 1)
  | .negSucc p => (d.digits, Nat.pow 10 (p + 1))

/-- How far the decimal is from the value, over the product of both denominators
with the one of the decimal made common. -/
def Interval.distance (i : Interval) (d : Numeral) : Nat :=
  let (num, den) := d.ratio
  let x := num * i.denominator
  let v := i.value * den
  if x ≤ v then v - x else x - v

/-- Whether `lower` is nearer to the value than `upper`, or as near and even. -/
def Interval.prefers (i : Interval) (lower upper : Numeral) : Bool :=
  i.distance lower < i.distance upper ||
    (i.distance lower == i.distance upper && lower.digits % 2 == 0)

/-- The nearest decimal of the interval on the grid of multiples of
`10^exponent`. -/
def Interval.onGrid (i : Interval) (exponent : Int) : Option Numeral :=
  let floor := match exponent with
    | .ofNat p => i.value / (i.denominator * Nat.pow 10 p)
    | .negSucc p => i.value * Nat.pow 10 (p + 1) / i.denominator
  let lower : Numeral := ⟨floor, exponent⟩
  let upper : Numeral := ⟨floor + 1, exponent⟩
  let fits (d : Numeral) : Bool := i.holds d.ratio.1 d.ratio.2
  match fits lower, fits upper with
  | true, true => if i.prefers lower upper then some lower else some upper
  | true, false => some lower
  | false, true => some upper
  | false, false => none

/-- Tries grids of more and more digits; seventeen are always enough. -/
def Interval.search (i : Interval) (lead : Int) : (fuel : Nat) → (digits : Nat) → Numeral
  | 0, digits => (i.onGrid (lead + 1 - digits)).getD ⟨0, 0⟩
  | fuel + 1, digits =>
    match i.onGrid (lead + 1 - digits) with
    | some d => d
    | none => i.search lead fuel (digits + 1)

/-- Moves the zeros at the end of the digits into the exponent. -/
def Numeral.strip : (fuel : Nat) → Numeral → Numeral
  | 0, d => d
  | fuel + 1, d =>
    if d.digits ≠ 0 ∧ d.digits % 10 = 0 then strip fuel ⟨d.digits / 10, d.exponent + 1⟩ else d

/-- The shortest decimal of `mantissa · 2^(exponent - 1074)`. -/
def shortest (mantissa exponent : Nat) : Numeral :=
  if mantissa = 0 then ⟨0, 0⟩
  else
    let i := Interval.around mantissa exponent
    (i.search (leadingExponent i.value i.denominator) 16 1).strip 20

end ScanGate.Decimal
