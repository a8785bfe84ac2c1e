import ScanGate.Text.Hex
import ScanGate.Text.Shown

/-! Text between quotes for a log: quotes, backslashes and every character that is
not shown are written as escapes. -/
namespace ScanGate.Text

/-- The number of hexadecimal digits of `n`. -/
def hexWidth (n : Nat) : Nat := Nat.log2 n / 4 + 1

def quoteChar (c : Char) : List Char :=
  if c = '"' ∨ c = '\\' then ['\\', c]
  else if c = '\t' then ['\\', 't']
  else if c = '\r' then ['\\', 'r']
  else if c = '\n' then ['\\', 'n']
  else if c.toNat = 0 then ['\\', '0']
  else if isShown c then [c]
  else ['\\', 'u', '\x7b'] ++ hexDigits (hexWidth c.toNat) c.toNat ++ ['\x7d']

def quoted (s : String) : String := String.ofList ('"' :: s.toList.flatMap quoteChar ++ ['"'])

end ScanGate.Text
