import ScanGate.Text.Hex
import ScanGate.Text.Split

/-! Numeric addresses. Four bytes are written between points, in decimal, octal or
hexadecimal; eight groups are hexadecimal numbers between colons. Both are written
back in one form. -/
namespace ScanGate.Address

/-- The number with these digits, none for no digits. -/
def number? (base : Nat) (cs : List Char) : Option Nat :=
  cs.foldlM (fun n c => do
    let d ← Text.hexValue c
    if d < base then some (base * n + d) else none) 0

/-! ### Four bytes -/

/-- A part of four bytes: decimal, octal after a zero, hexadecimal after `0x`. -/
def part? : List Char → Option Nat
  | [] => none
  | '0' :: x :: rest =>
    if x = 'x' ∨ x = 'X' then number? 16 rest else number? 8 (x :: rest)
  | cs => number? 10 cs

/-- The parts between points; a point at the end separates nothing. -/
def parts (cs : List Char) : List (List Char) :=
  let all := Text.splitAt (· == '.') cs
  if 1 < all.length && all.getLast? == some [] then all.dropLast else all

/-- Whether the last part is a number. -/
def endsInNumber (cs : List Char) : Bool :=
  match (parts cs).getLast? with
  | some last => (!last.isEmpty && last.all Char.isDigit) ||
      (last.take 2 == ['0', 'x'] || last.take 2 == ['0', 'X']) && (part? last).isSome
  | none => false

def writeFour (value : Nat) : List Char :=
  let byte (i : Nat) := Nat.toDigits 10 (value / Nat.pow 256 i % 256)
  byte 3 ++ ['.'] ++ byte 2 ++ ['.'] ++ byte 1 ++ ['.'] ++ byte 0

/-- Four bytes: the last part fills all bytes that the others leave. -/
def four? (cs : List Char) : Option (List Char) := do
  let numbers ← (parts cs).mapM part?
  let last ← numbers.getLast?
  let front := numbers.dropLast
  if 3 < front.length ∨ front.any (255 < ·) ∨ Nat.pow 256 (4 - front.length) ≤ last then none
  else
    return writeFour
      (front.zipIdx.foldl (fun v (n, i) => v + n * Nat.pow 256 (3 - i)) last)

/-! ### Eight groups -/

/-- A group of at most four hexadecimal digits. -/
def group? (cs : List Char) : Option Nat :=
  if cs.isEmpty ∨ 4 < cs.length then none else number? 16 cs

/-- A byte in decimal without zeros in front. -/
def byte? (cs : List Char) : Option Nat := do
  if cs.isEmpty || (1 < cs.length && cs.head? == some '0') then none
  let n ← number? 10 cs
  if n < 256 then return n else none

/-- Two groups as four decimal bytes between points. -/
def bytes? (cs : List Char) : Option (List Nat) := do
  match ← (Text.splitAt (· == '.') cs).mapM byte? with
  | [a, b, c, d] => return [256 * a + b, 256 * c + d]
  | _ => none

/-- Groups between colons. At the end of an address the last one may be four bytes. -/
def groups? (atEnd : Bool) (cs : List Char) : Option (List Nat) := do
  if cs.isEmpty then return []
  let words := Text.splitAt (· == ':') cs
  match words.getLast? with
  | some last =>
    if atEnd && last.contains '.' then
      return (← words.dropLast.mapM group?) ++ (← bytes? last)
    else words.mapM group?
  | none => none

/-- Splits at the first double colon. -/
def splitDouble : List Char → List Char × Option (List Char)
  | [] => ([], none)
  | ':' :: ':' :: rest => ([], some rest)
  | c :: rest =>
    let (front, back) := splitDouble rest
    (c :: front, back)

/-- Eight groups; a double colon stands for one zero or more. -/
def eightGroups? (cs : List Char) : Option (List Nat) :=
  match splitDouble cs with
  | (front, none) => do
    let groups ← groups? true front
    if groups.length = 8 then some groups else none
  | (front, some back) => do
    let front ← groups? false front
    let back ← groups? true back
    if front.length + back.length < 8 then
      some (front ++ List.replicate (8 - front.length - back.length) 0 ++ back)
    else none

/-- The number of zeros at the start. -/
def leadingZeros : List Nat → Nat
  | 0 :: rest => leadingZeros rest + 1
  | _ => 0

/-- Where the first longest run of two or more zeros begins, and its length. -/
def zeroRun (groups : List Nat) : Option (Nat × Nat) :=
  (List.range 8).foldl (fun best i =>
    let n := leadingZeros (groups.drop i)
    match best with
    | none => if 2 ≤ n then some (i, n) else none
    | some (_, m) => if m < n then some (i, n) else best) none

def writeGroups (groups : List Nat) : List Char :=
  List.intercalate [':'] (groups.map (Nat.toDigits 16))

/-- Hexadecimal groups, the longest run of zeros left out. -/
def writeEight (groups : List Nat) : List Char :=
  match zeroRun groups with
  | none => writeGroups groups
  | some (i, n) => writeGroups (groups.take i) ++ [':', ':'] ++ writeGroups (groups.drop (i + n))

/-- An address of eight groups in its brackets. -/
def eight? (cs : List Char) : Option (List Char) :=
  (eightGroups? cs).map fun groups => '[' :: writeEight groups ++ [']']

end ScanGate.Address
