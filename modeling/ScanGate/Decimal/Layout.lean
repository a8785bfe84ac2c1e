import ScanGate.Decimal.Shortest

/-! How a double is written in JSON: its shortest decimal, positional while the
exponent of the leading digit is small enough and with an exponent otherwise. -/
namespace ScanGate.Decimal

structure Layout where
  /-- The least and the greatest exponent of the leading digit written positionally. -/
  least : Int
  greatest : Int
  /-- Before the digits of an exponent that is not negative. -/
  exponentPlus : String

/-- JSON numbers are positional for exponents from -5 to 15. -/
def jsonLayout : Layout := ⟨-5, 15, "+"⟩

/-- Puts the point `places` digits after the first character. -/
def Layout.positional (digits : List Char) (lead : Int) : List Char :=
  match lead with
  | .negSucc n => ['0', '.'] ++ List.replicate n '0' ++ digits
  | .ofNat n =>
    if digits.length ≤ n + 1 then
      digits ++ List.replicate (n + 1 - digits.length) '0' ++ ['.', '0']
    else digits.take (n + 1) ++ ['.'] ++ digits.drop (n + 1)

def Layout.scientific (layout : Layout) (digits : List Char) (lead : Int) : List Char :=
  let mantissa := match digits with
    | [] => []
    | [d] => [d]
    | d :: rest => d :: '.' :: rest
  let exponent := if lead < 0 then '-' :: Nat.toDigits 10 lead.natAbs
    else layout.exponentPlus.toList ++ Nat.toDigits 10 lead.natAbs
  mantissa ++ ['e'] ++ exponent

/-- The digits of a decimal laid out. -/
def Layout.write (layout : Layout) (d : Numeral) : List Char :=
  let digits := Nat.toDigits 10 d.digits
  let lead := d.exponent + digits.length - 1
  if layout.least ≤ lead ∧ lead ≤ layout.greatest then Layout.positional digits lead
  else layout.scientific digits lead

/-- The text of a finite double; nothing for the others. -/
def ofBinary64 (layout : Layout) : Binary64 → Option (List Char)
  | .finite negative m e =>
    let body := layout.write (shortest m e)
    some (if negative then '-' :: body else body)
  | _ => none

end ScanGate.Decimal
