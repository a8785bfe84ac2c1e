/-! Bytes as text. `decodeLossy` reads UTF-8 and puts a replacement character in
place of every longest stretch of bytes that starts a character and does not
finish it, and of every other byte that is out of place. -/
namespace ScanGate.Text

def encodeUtf8 (s : String) : List UInt8 := s.toUTF8.toList

/-- The text of bytes that are UTF-8. -/
def ofUtf8? (data : ByteArray) : Option String := String.fromUTF8? data

def replacement : Char := Char.ofNat 0xFFFD

/-- How many bytes follow a first byte, the value of its own bits, and the least
and greatest value of the second byte. -/
def leadByte (b : UInt8) : Option (Nat × Nat × Nat × Nat) :=
  let n := b.toNat
  if 0xC2 ≤ n ∧ n ≤ 0xDF then some (1, n % 32, 0x80, 0xBF)
  else if n = 0xE0 then some (2, 0, 0xA0, 0xBF)
  else if n = 0xED then some (2, 13, 0x80, 0x9F)
  else if 0xE1 ≤ n ∧ n ≤ 0xEF then some (2, n % 16, 0x80, 0xBF)
  else if n = 0xF0 then some (3, 0, 0x90, 0xBF)
  else if 0xF1 ≤ n ∧ n ≤ 0xF3 then some (3, n % 8, 0x80, 0xBF)
  else if n = 0xF4 then some (3, 4, 0x80, 0x8F)
  else none

/-- Adds the bytes of a character one by one: `left` more are to come, the next
one between the two bounds. -/
def decodeFrom : (left value low high : Nat) → List UInt8 → List Char
  | 0, _, _, _, [] => []
  | _ + 1, _, _, _, [] => [replacement]
  | 0, _, _, _, b :: bs =>
    if b.toNat < 0x80 then Char.ofNat b.toNat :: decodeFrom 0 0 0 0 bs
    else
      match leadByte b with
      | some (left, value, low, high) => decodeFrom left value low high bs
      | none => replacement :: decodeFrom 0 0 0 0 bs
  | left + 1, value, low, high, b :: bs =>
    if low ≤ b.toNat ∧ b.toNat ≤ high then
      let value := 64 * value + b.toNat % 64
      if left = 0 then Char.ofNat value :: decodeFrom 0 0 0 0 bs
      else decodeFrom left value 0x80 0xBF bs
    else if b.toNat < 0x80 then replacement :: Char.ofNat b.toNat :: decodeFrom 0 0 0 0 bs
    else
      match leadByte b with
      | some (left, value, low, high) => replacement :: decodeFrom left value low high bs
      | none => replacement :: replacement :: decodeFrom 0 0 0 0 bs

def decodeLossy (data : ByteArray) : String := String.ofList (decodeFrom 0 0 0 0 data.toList)

end ScanGate.Text
