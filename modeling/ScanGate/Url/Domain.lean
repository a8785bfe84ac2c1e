import ScanGate.Url.Domain.Direction
import ScanGate.Url.Domain.Folding
import ScanGate.Url.Domain.Joining
import ScanGate.Url.Punycode

/-! Domain names. A domain is labels between points. Its characters are folded and
composed, and a label beyond ASCII is written in Punycode behind a mark. A label
that comes in that form has to be what its characters fold to. There is no limit on
the length of a domain, and hyphens may stand anywhere. -/
namespace ScanGate.Domain

/-- Characters no domain may have. -/
def isForbidden (c : Char) : Bool :=
  c.toNat ≤ 32 || c.toNat == 127 ||
    ['#', '%', '/', ':', '<', '>', '?', '@', '[', '\\', ']', '^', '|'].contains c

/-- The characters for which a text stands. -/
def fold (cs : List Char) : Option (List Char) :=
  return Text.Composition.compose (← cs.mapM fold?).flatten

/-- A label: what it says and how it is written. -/
structure Label where
  chars : List Char
  text : List Char
  deriving DecidableEq, Repr

namespace Label

/-- What stands before a label in Punycode. -/
def mark : List Char := ['x', 'n', '-', '-']

/-- The longest text in Punycode that is read, and the longest label written in it. -/
def maxEncoded : Nat := 2000

def maxLength : Nat := 1000

def isAscii (cs : List Char) : Bool := cs.all (·.toNat < 128)

/-- What a text in Punycode says, if it could be said in no other form. -/
def decode? (cs : List Char) : Option (List Char) := do
  if cs.isEmpty || cs.getLast? == some '-' || maxEncoded < cs.length then none
  let chars ← Punycode.decode? cs
  if isAscii chars || fold chars != some chars then none else return chars

/-- Whether the characters of a label may stand together. -/
def isValid (cs : List Char) : Bool :=
  !cs.any isForbidden && (isAscii cs ||
    (!cs.head?.any Mark.isMark && Joining.allMayStand [] cs && cs.length ≤ maxLength))

/-- The label with these folded characters. -/
def ofChars? (cs : List Char) : Option Label := do
  let label : Label ←
    if mark.isPrefixOf cs then
      if isAscii cs then pure ⟨← decode? (cs.drop mark.length), cs⟩ else none
    else pure ⟨cs, if isAscii cs then cs else mark ++ Punycode.encode cs⟩
  if isValid label.chars then return label else none

def directions (label : Label) : List Direction := label.chars.map Direction.ofChar

end Label

/-- The ASCII form of a domain. If one label is read from right to left, the
directions of all have to agree. -/
def toAscii? (cs : List Char) : Option (List Char) := do
  let labels ← (Text.splitAt (· == '.') (← fold cs)).mapM Label.ofChars?
  let text := List.intercalate ['.'] (labels.map Label.text)
  if labels.all (Label.isAscii ·.chars) then return text
  let directions := labels.map Label.directions
  if directions.any (·.any Direction.isRightToLeft) && !directions.all Direction.agree then none
  else return text

end ScanGate.Domain
