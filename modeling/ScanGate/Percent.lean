import ScanGate.Text.Hex
import ScanGate.Text.Utf8

/-! Percent encoding. A byte outside the kept set is written as a percent sign
and two uppercase hexadecimal digits; decoding turns every such triple back into
its byte and leaves everything else. -/
namespace ScanGate.Percent

def escape (b : UInt8) : List Char :=
  ['%', Text.upperHexDigit (b.toNat / 16), Text.upperHexDigit (b.toNat % 16)]

/-- The bytes, those that are kept as they are. -/
def encodeBytes (keep : Char → Bool) : List UInt8 → List Char
  | [] => []
  | b :: bs =>
    let c := Char.ofNat b.toNat
    if b.toNat < 128 && keep c then c :: encodeBytes keep bs
    else escape b ++ encodeBytes keep bs

def encode (keep : Char → Bool) (s : String) : List Char :=
  encodeBytes keep (Text.encodeUtf8 s)

/-- The characters of ASCII from the blank on, except delete. -/
def isPrintable (c : Char) : Bool := 0x20 ≤ c.toNat && c.toNat < 0x7F

/-- Letters, digits, hyphen, underscore, point and tilde need no escape anywhere. -/
def isUnreserved (c : Char) : Bool :=
  c.isAlphanum || c == '-' || c == '_' || c == '.' || c == '~'

/-- A text as one segment of a path. -/
def segment (s : String) : String := String.ofList (encode isUnreserved s)

def decodeBytes : List Char → List UInt8
  | '%' :: a :: b :: rest =>
    match Text.hexValue a, Text.hexValue b with
    | some high, some low => UInt8.ofNat (16 * high + low) :: decodeBytes rest
    | _, _ => '%'.toNat.toUInt8 :: decodeBytes (a :: b :: rest)
  | c :: rest => Text.encodeUtf8 (String.singleton c) ++ decodeBytes rest
  | [] => []

end ScanGate.Percent
