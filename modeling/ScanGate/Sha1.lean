import ScanGate.Text.Hex

/-! The SHA-1 digest. A message is padded to whole blocks of sixteen words, each
block is stretched to eighty words, and eighty rounds mix them into the five
words of the state. -/
namespace ScanGate.Sha1

structure State where
  a : UInt32
  b : UInt32
  c : UInt32
  d : UInt32
  e : UInt32
  deriving DecidableEq, Repr

def State.initial : State := ⟨0x67452301, 0xEFCDAB89, 0x98BADCFE, 0x10325476, 0xC3D2E1F0⟩

def State.add (s t : State) : State :=
  ⟨s.a + t.a, s.b + t.b, s.c + t.c, s.d + t.d, s.e + t.e⟩

def rotate (x n : UInt32) : UInt32 := (x <<< n) ||| (x >>> (32 - n))

/-- The function and the constant of round `i`. -/
def mix (i : Nat) (b c d : UInt32) : UInt32 :=
  if i < 20 then ((b &&& c) ||| ((~~~ b) &&& d)) + 0x5A827999
  else if i < 40 then (b ^^^ c ^^^ d) + 0x6ED9EBA1
  else if i < 60 then ((b &&& c) ||| (b &&& d) ||| (c &&& d)) + 0x8F1BBCDC
  else (b ^^^ c ^^^ d) + 0xCA62C1D6

def round (i : Nat) (s : State) (word : UInt32) : State :=
  ⟨rotate s.a 5 + mix i s.b s.c s.d + s.e + word, s.a, rotate s.b 30, s.c, s.d⟩

/-- Runs the rounds from `i` on the words; `window` holds the sixteen words that
the next ones are made of, oldest first. -/
def rounds : (count : Nat) → (i : Nat) → (window : List UInt32) → State → State
  | count + 1, i, w :: window, s =>
    let next := match window[1]?, window[7]?, window[12]? with
      | some x, some y, some z => rotate (w ^^^ x ^^^ y ^^^ z) 1
      | _, _, _ => 0
    rounds count (i + 1) (window ++ [next]) (round i s w)
  | _, _, _, s => s

def compress (s : State) (block : List UInt32) : State := s.add (rounds 80 0 block s)

/-- The bytes of a number, most significant first. -/
def bigEndian : (width : Nat) → Nat → List UInt8
  | 0, _ => []
  | width + 1, n => bigEndian width (n / 256) ++ [UInt8.ofNat (n % 256)]

/-- A one bit, zeros to fill the block up to eight bytes, and the length in bits. -/
def padding (length : Nat) : List UInt8 :=
  0x80 :: List.replicate ((119 - length % 64) % 64) 0 ++ bigEndian 8 (8 * length)

/-- Consecutive bytes as words, four a word. -/
def words : List UInt8 → List UInt32
  | a :: b :: c :: d :: rest =>
    (a.toUInt32 <<< 24 ||| b.toUInt32 <<< 16 ||| c.toUInt32 <<< 8 ||| d.toUInt32) :: words rest
  | _ => []

/-- Takes sixteen words at a time. -/
def absorb (s : State) : List UInt32 → State
  | w0 :: w1 :: w2 :: w3 :: w4 :: w5 :: w6 :: w7 :: w8 :: w9 :: w10 :: w11 :: w12 :: w13 ::
      w14 :: w15 :: rest =>
    absorb (compress s
      [w0, w1, w2, w3, w4, w5, w6, w7, w8, w9, w10, w11, w12, w13, w14, w15]) rest
  | _ => s

def digest (message : List UInt8) : State :=
  absorb State.initial (words (message ++ padding message.length))

def State.hex (s : State) : List Char :=
  Text.hexDigits 8 s.a.toNat ++ Text.hexDigits 8 s.b.toNat ++ Text.hexDigits 8 s.c.toNat ++
    Text.hexDigits 8 s.d.toNat ++ Text.hexDigits 8 s.e.toNat

/-- The digest of a message in forty hexadecimal digits. -/
def hex (message : List UInt8) : List Char := (digest message).hex

theorem length_hex (message : List UInt8) : (hex message).length = 40 := by
  simp [hex, State.hex]

end ScanGate.Sha1
