/-! A place in a YAML text: what is still to be read, and how far the reading has
come, in bytes, lines and columns. -/
namespace ScanGate.Yaml

/-- Space and tab. -/
def isGap (c : Char) : Bool := c == ' ' || c == '\t'

/-- Line feed, carriage return, next line, and the separators of lines and
paragraphs. -/
def isBreak (c : Char) : Bool :=
  c == '\n' || c == '\r' || c.toNat == 0x85 || c.toNat == 0x2028 || c.toNat == 0x2029

/-- The characters of anchors, handles and directive names. -/
def isNameChar (c : Char) : Bool := c.isAlphanum || c == '-' || c == '_'

/-- The byte order mark. -/
def byteOrderMark : Char := Char.ofNat 0xFEFF

/-- Whether a character may occur in a text at all. -/
def isAllowed (c : Char) : Bool :=
  let n := c.toNat
  n == 9 || n == 10 || n == 13 || (0x20 ≤ n && n ≤ 0x7E) || n == 0x85 ||
    (0xA0 ≤ n && n ≤ 0xFFFD) || 0x10000 ≤ n

/-- Whether a word ends before this character; `none` is the end of the text. -/
def endsWord : Option Char → Bool
  | some c => isGap c || isBreak c
  | none => true

/-- The number of bytes of a text. -/
def bytes (cs : List Char) : Nat := cs.foldl (fun n c => n + c.utf8Size) 0

structure Cursor where
  rest : List Char
  /-- The number of bytes before this place. -/
  index : Nat := 0
  line : Nat := 0
  column : Nat := 0

namespace Cursor

def peek? (c : Cursor) : Option Char := c.rest.head?

/-- Goes on by `n` characters of the same line. -/
def advance (c : Cursor) (n : Nat) : Cursor :=
  { c with
    rest := c.rest.drop n, index := c.index + bytes (c.rest.take n), column := c.column + n }

def skip (c : Cursor) : Cursor := c.advance 1

/-- The characters up to the first that is not wanted. -/
def takeWhile (c : Cursor) (wanted : Char → Bool) : List Char × Cursor :=
  let text := c.rest.takeWhile wanted
  (text, c.advance text.length)

def dropWhile (c : Cursor) (wanted : Char → Bool) : Cursor := (c.takeWhile wanted).2

/-- Goes to the next line, over a break of `n` characters. -/
def nextLine (c : Cursor) (n : Nat) : Cursor where
  rest := c.rest.drop n
  index := c.index + bytes (c.rest.take n)
  line := c.line + 1
  column := 0

/-- A line break as it counts in a scalar: the separators stand for themselves and
all others for a line feed. -/
def takeBreak (c : Cursor) : List Char × Cursor :=
  match c.rest with
  | '\r' :: '\n' :: _ => (['\n'], c.nextLine 2)
  | x :: _ =>
    if x.toNat == 0x2028 || x.toNat == 0x2029 then ([x], c.nextLine 1)
    else if isBreak x then (['\n'], c.nextLine 1)
    else ([], c)
  | [] => ([], c)

def skipBreak (c : Cursor) : Cursor := c.takeBreak.2

def atBreak (c : Cursor) : Bool := c.peek?.any isBreak

/-- Whether three of these at the start of a line stand alone. -/
def isTriple (c : Cursor) (x : Char) : Bool :=
  c.column == 0 && c.rest.take 3 == [x, x, x] && endsWord (c.rest.drop 3).head?

/-- Whether a document starts or ends here. -/
def atMarker (c : Cursor) : Bool := c.isTriple '-' || c.isTriple '.'

end Cursor

end ScanGate.Yaml
