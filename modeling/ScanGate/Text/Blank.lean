/-! Blank characters and trimming. A character is blank when it has the
White_Space property of Unicode; `trim` removes blanks from both ends and
nothing from inside. -/
namespace ScanGate.Text

/-- The twenty-five characters with the White_Space property. -/
def isBlank (c : Char) : Bool :=
  let n := c.toNat
  (9 ≤ n && n ≤ 13) || n == 0x20 || n == 0x85 || n == 0xA0 || n == 0x1680 ||
    (0x2000 ≤ n && n ≤ 0x200A) || n == 0x2028 || n == 0x2029 || n == 0x202F ||
    n == 0x205F || n == 0x3000

def trimLeft (cs : List Char) : List Char := cs.dropWhile isBlank

def trimChars (cs : List Char) : List Char := (trimLeft (trimLeft cs).reverse).reverse

def trim (s : String) : String := String.ofList (trimChars s.toList)

theorem trimLeft_append_takeWhile (cs : List Char) :
    cs.takeWhile isBlank ++ trimLeft cs = cs := List.takeWhile_append_dropWhile

end ScanGate.Text
