import ScanGate.Text.Utf8

/-! Bytes of a document as text. A byte order mark tells how the rest is written and is left
out; without one it is UTF-8. -/
namespace ScanGate.Text

/-- The characters of UTF-16. `lead` is the first half of a surrogate pair while the second one
has not come. -/
def decodeUnits (unit : UInt8 → UInt8 → Nat) : (lead : Option Nat) → List UInt8 → List Char
  | none, [] => []
  | some _, [] => [replacement]
  | _, [_] => [replacement]
  | lead, b :: b' :: bs =>
    let n := unit b b'
    if 0xDC00 ≤ n ∧ n < 0xE000 then
      let c := match lead with
        | some m => Char.ofNat (0x10000 + 1024 * (m - 0xD800) + (n - 0xDC00))
        | none => replacement
      c :: decodeUnits unit none bs
    else
      (if lead.isSome then [replacement] else []) ++
        if 0xD800 ≤ n ∧ n < 0xDC00 then decodeUnits unit (some n) bs
        else Char.ofNat n :: decodeUnits unit none bs

def littleEndian (b b' : UInt8) : Nat := b.toNat + 256 * b'.toNat

def bigEndian (b b' : UInt8) : Nat := 256 * b.toNat + b'.toNat

/-- The text of bytes for which no charset is declared. -/
def decode (data : ByteArray) : String :=
  match data.toList with
  | 0xEF :: 0xBB :: 0xBF :: bs => .ofList (decodeFrom 0 0 0 0 bs)
  | 0xFF :: 0xFE :: bs => .ofList (decodeUnits littleEndian none bs)
  | 0xFE :: 0xFF :: bs => .ofList (decodeUnits bigEndian none bs)
  | _ => decodeLossy data

end ScanGate.Text
