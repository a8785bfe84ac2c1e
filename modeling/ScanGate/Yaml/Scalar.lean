import ScanGate.Text.Hex
import ScanGate.Yaml.Cursor

/-! The text of scalars. Plain and quoted scalars are words with white space
between them, and lines are folded: a single break becomes a space. Block scalars
are lines with a common indentation. The fuel bounds the words or lines still to
come; the number of characters left is enough. -/
namespace ScanGate.Yaml

/-- How a scalar is written. -/
inductive Style where
  | plain
  | quoted
  | literal
  | folded
  deriving DecidableEq, Repr

/-! ### White space -/

/-- The white space between two words: blanks, or line breaks. -/
structure Gap where
  blanks : List Char := []
  first : List Char := []
  more : List Char := []
  broken : Bool := false

/-- What is left of white space between words. -/
def Gap.text (g : Gap) : List Char :=
  if !g.broken then g.blanks
  else if g.first == ['\n'] then if g.more.isEmpty then [' '] else g.more
  else g.first ++ g.more

/-- White space up to the next word. No tab may stand left of the margin. -/
def Gap.read (margin : Nat) : Nat → Gap → Cursor → Option (Gap × Cursor)
  | 0, _, _ => none
  | fuel + 1, g, c =>
    if c.atBreak then
      let (text, c) := c.takeBreak
      if g.broken then read margin fuel { g with more := g.more ++ text } c
      else read margin fuel { g with blanks := [], first := text, broken := true } c
    else
      match c.peek? with
      | some x =>
        if !isGap x then some (g, c)
        else if g.broken then
          if x == '\t' && c.column < margin then none else read margin fuel g c.skip
        else
          let (blanks, c) := c.takeWhile isGap
          read margin fuel { g with blanks } c
      | none => some (g, c)

/-! ### Plain scalars -/

/-- The characters that have a meaning of their own inside brackets. -/
def isBracketing (c : Char) : Bool := [',', '[', ']', '\x7b', '\x7d'].contains c

/-- A word of a plain scalar. Inside brackets a colon before one of the characters
that structure them is refused. -/
def plainWord (flow : Bool) : List Char → Option (List Char)
  | [] => some []
  | c :: cs =>
    if isGap c || isBreak c then some []
    else if flow && c == ':' && cs.head?.any (fun x => isBracketing x || x == '?') then none
    else if c == ':' && endsWord cs.head? then some []
    else if flow && isBracketing c then some []
    else (plainWord flow cs).map (c :: ·)

/-- The text of a plain scalar and whether line breaks follow it. Lines after the
first start at the margin or right of it. -/
def readPlain (flow : Bool) (margin : Nat) :
    Nat → Gap → Cursor → Option (List Char × Bool × Cursor)
  | 0, _, _ => none
  | fuel + 1, gap, c =>
    if c.atMarker || c.peek? == some '#' then some ([], gap.broken, c)
    else do
      let word ← plainWord flow c.rest
      if word.isEmpty then return ([], gap.broken, c)
      let before := gap.text
      let c := c.advance word.length
      let (gap, c) ← Gap.read margin (fuel + 1) {} c
      let ended := gap.blanks.isEmpty && !gap.broken
      if ended || (!flow && c.column < margin) then return (before ++ word, gap.broken, c)
      let (more, broken, c) ← readPlain flow margin fuel gap c
      return (before ++ word ++ more, broken, c)

/-! ### Quoted scalars -/

/-- What one-letter escapes stand for. -/
def escapeChar : Char → Option Char
  | '0' => some (Char.ofNat 0)
  | 'a' => some (Char.ofNat 7)
  | 'b' => some (Char.ofNat 8)
  | 't' => some '\t'
  | '\t' => some '\t'
  | 'n' => some '\n'
  | 'v' => some (Char.ofNat 11)
  | 'f' => some (Char.ofNat 12)
  | 'r' => some '\r'
  | 'e' => some (Char.ofNat 27)
  | ' ' => some ' '
  | '"' => some '"'
  | '/' => some '/'
  | '\\' => some '\\'
  | 'N' => some (Char.ofNat 0x85)
  | '_' => some (Char.ofNat 0xA0)
  | 'L' => some (Char.ofNat 0x2028)
  | 'P' => some (Char.ofNat 0x2029)
  | _ => none

/-- The character with these hexadecimal digits. -/
def codeChar (digits : List Char) : Option Char := do
  let n ← digits.foldlM (fun n d => return 16 * n + (← Text.hexValue d)) 0
  if n.isValidChar then some (Char.ofNat n) else none

/-- A word of a quoted scalar: its text, how many characters it takes, and whether
it ends with a backslash before a line break. -/
structure Word where
  text : List Char := []
  length : Nat := 0
  joined : Bool := false

def Word.cons (c : Char) (n : Nat) (w : Word) : Word :=
  { w with text := c :: w.text, length := w.length + n }

/-- Between single quotes a quote is written twice. -/
def singleWord : List Char → Option Word
  | '\'' :: '\'' :: rest => (singleWord rest).map (Word.cons '\'' 2)
  | c :: rest =>
    if c == '\'' || isGap c || isBreak c then some {}
    else (singleWord rest).map (Word.cons c 1)
  | [] => some {}

/-- Between double quotes a backslash escapes. -/
def doubleWord : List Char → Option Word
  | '\\' :: 'x' :: a :: b :: rest => do
    return (← doubleWord rest).cons (← codeChar [a, b]) 4
  | '\\' :: 'u' :: a :: b :: c :: d :: rest => do
    return (← doubleWord rest).cons (← codeChar [a, b, c, d]) 6
  | '\\' :: 'U' :: a :: b :: c :: d :: e :: f :: g :: h :: rest => do
    return (← doubleWord rest).cons (← codeChar [a, b, c, d, e, f, g, h]) 10
  | '\\' :: c :: rest =>
    if isBreak c then some { length := 1, joined := true }
    else do
      return (← doubleWord rest).cons (← escapeChar c) 2
  | c :: rest =>
    if c == '\\' then none
    else if c == '"' || isGap c || isBreak c then some {}
    else (doubleWord rest).map (Word.cons c 1)
  | [] => some {}

/-- The text of a quoted scalar after its first quote. -/
def readQuoted (quote : Char) (word : List Char → Option Word) :
    Nat → Cursor → Option (List Char × Cursor)
  | 0, _ => none
  | fuel + 1, c =>
    if c.atMarker || c.rest.isEmpty then none
    else do
      let w ← word c.rest
      let c := c.advance w.length
      let c := if w.joined then c.skipBreak else c
      if c.peek? == some quote then return (w.text, c.skip)
      let (gap, c) ← Gap.read 0 (fuel + 1) { broken := w.joined } c
      let (more, c) ← readQuoted quote word fuel c
      return (w.text ++ gap.text ++ more, c)

/-! ### Block scalars -/

/-- What becomes of the line breaks at the end of a block scalar. -/
inductive Chomping where
  | clip
  | strip
  | keep
  deriving DecidableEq, Repr

def Chomping.ofChar? : Char → Option Chomping
  | '-' => some .strip
  | '+' => some .keep
  | _ => none

/-- An indentation from 1 to 9, if a digit stands here; 0 is none. -/
def readIncrement (c : Cursor) : Option (Nat × Cursor) :=
  match c.peek? with
  | some d =>
    if d == '0' then none
    else if d.isDigit then some (d.toNat - 48, c.skip)
    else some (0, c)
  | none => some (0, c)

def readChomping (c : Cursor) : Option Chomping × Cursor :=
  match c.peek?.bind Chomping.ofChar? with
  | some chomping => (some chomping, c.skip)
  | none => (none, c)

/-- Chomping and indentation, in any order. -/
def readHeader (c : Cursor) : Option (Chomping × Nat × Cursor) := do
  match readChomping c with
  | (some chomping, c) =>
    let (increment, c) ← readIncrement c
    return (chomping, increment, c)
  | (none, c) =>
    let (increment, c) ← readIncrement c
    if increment = 0 then return (.clip, 0, c)
    let (chomping, c) := readChomping c
    return (chomping.getD .clip, increment, c)

/-- Goes to the end of a line that holds nothing more than a comment. -/
def finishLine (c : Cursor) : Option Cursor :=
  let c := c.dropWhile isGap
  let c := if c.peek? == some '#' then c.dropWhile (!isBreak ·) else c
  if c.rest.isEmpty then some c
  else if c.atBreak then some c.skipBreak
  else none

/-- Empty lines, up to the indentation of the next line that is not: the breaks and
the widest indentation. An indentation of 0 is still to be found out. -/
def readBreaks (indent : Nat) : Nat → Nat → Cursor → Option (List Char × Nat × Cursor)
  | 0, _, _ => none
  | fuel + 1, widest, c =>
    let spaces := (c.rest.takeWhile (· == ' ')).length
    let c := c.advance (if indent = 0 then spaces else min spaces (indent - c.column))
    let widest := max widest c.column
    if (indent = 0 || c.column < indent) && c.peek? == some '\t' then none
    else if c.atBreak then do
      let (text, c) := c.takeBreak
      let (more, widest, c) ← readBreaks indent fuel widest c
      return (text ++ more, widest, c)
    else some ([], widest, c)

/-- How far a block scalar has come: the break after its last line, the empty lines
after it, and whether that line started with white space. -/
structure Tail where
  last : List Char := []
  empty : List Char := []
  blank : Bool := false

/-- What stands between two lines. Only a literal scalar keeps every break. -/
def Tail.joint (t : Tail) (folded blank : Bool) : List Char :=
  if folded && t.last == ['\n'] && !t.blank && !blank then
    if t.empty.isEmpty then [' '] else t.empty
  else t.last ++ t.empty

def readLines (folded : Bool) (indent : Nat) :
    Nat → Tail → Cursor → Option (List Char × Tail × Cursor)
  | 0, _, _ => none
  | fuel + 1, t, c =>
    if c.column ≠ indent || c.rest.isEmpty then some ([], t, c)
    else do
      let blank := c.peek?.any isGap
      let (line, c) := c.takeWhile (!isBreak ·)
      let (last, c) := c.takeBreak
      let (empty, _, c) ← readBreaks indent (fuel + 1) 0 c
      let (more, tail, c) ← readLines folded indent fuel { last, empty, blank } c
      return (t.joint folded blank ++ line ++ more, tail, c)

/-- The text of a block scalar after its first character. The margin is the least
indentation that it may have. -/
def readBlock (folded : Bool) (margin fuel : Nat) (c : Cursor) :
    Option (List Char × Cursor) := do
  let (chomping, increment, c) ← readHeader c
  let c ← finishLine c
  let given := if increment = 0 then 0 else margin - 1 + increment
  let (empty, widest, c) ← readBreaks given fuel 0 c
  let indent := if given = 0 then max widest (max margin 1) else given
  let (text, tail, c) ← readLines folded indent fuel { empty } c
  let last := if chomping = .strip then [] else tail.last
  let empty := if chomping = .keep then tail.empty else []
  return (text ++ last ++ empty, c)

end ScanGate.Yaml
