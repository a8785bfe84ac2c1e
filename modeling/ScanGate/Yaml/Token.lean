import ScanGate.Yaml.Scalar
import ScanGate.Yaml.Tag

/-! The tokens of a YAML text. Where a block starts and ends follows from the
indentation. Whether a scalar is a key is known only when its colon comes, so a
place that may be the start of a key is remembered, and the token is put in there
later; such a key ends on its line, within 1024 bytes. -/
namespace ScanGate.Yaml

inductive Token where
  | directive (d : Directive)
  | documentStart
  | documentEnd
  | blockSequence
  | blockMapping
  | blockEnd
  | flowSequence
  | flowSequenceEnd
  | flowMapping
  | flowMappingEnd
  | flowEntry
  | blockEntry
  | key
  | value
  | reference (name : List Char)
  | anchor (name : List Char)
  | tag (handle : List Char) (suffix : List UInt8)
  | scalar (text : List Char) (style : Style)
  deriving DecidableEq, Repr

/-- A place where a key may start: how many tokens stand before it, and whether it
has to be a key. -/
structure Candidate where
  number : Nat
  required : Bool
  index : Nat
  line : Nat
  column : Nat

structure Lexer where
  cursor : Cursor
  /-- The tokens found, the last one first. -/
  tokens : List Token := []
  count : Nat := 0
  /-- The columns of the open blocks, the innermost first. -/
  indents : List Nat := []
  candidate : Option Candidate := none
  /-- The candidates outside of each open bracket. -/
  outer : List (Option Candidate) := []
  /-- Whether a key may start here. -/
  startable : Bool := true

namespace Lexer

def flow (x : Lexer) : Bool := !x.outer.isEmpty

/-- The first column inside the innermost block. -/
def margin (x : Lexer) : Nat :=
  match x.indents with
  | [] => 0
  | i :: _ => i + 1

def push (x : Lexer) (t : Token) : Lexer :=
  { x with tokens := t :: x.tokens, count := x.count + 1 }

/-- Puts a token behind the first `number` ones. -/
def insert (x : Lexer) (number : Nat) (t : Token) : Lexer :=
  { x with tokens := x.tokens.insertIdx (x.count - number) t, count := x.count + 1 }

def goto (x : Lexer) (cursor : Cursor) : Lexer := { x with cursor }

/-- Forgets the candidate, unless it has to be a key. -/
def drop (x : Lexer) : Option Lexer :=
  match x.candidate with
  | some c => if c.required then none else some { x with candidate := none }
  | none => some x

/-- Remembers this place if a key may start here. -/
def mark (x : Lexer) : Option Lexer :=
  if x.startable then do
    let c := x.cursor
    let candidate : Candidate := {
      number := x.count, required := !x.flow && x.indents.head? == some c.column
      index := c.index, line := c.line, column := c.column }
    return { ← x.drop with candidate := some candidate }
  else some x

/-- The longest way from the start of a key to its colon, in bytes. -/
def keyLength : Nat := 1024

def isStale (x : Lexer) (c : Candidate) : Bool :=
  c.line < x.cursor.line || c.index + keyLength < x.cursor.index

def refresh? (x : Lexer) : Option Candidate → Option (Option Candidate)
  | some c => if x.isStale c then if c.required then none else some none else some (some c)
  | none => some none

/-- Forgets the candidates that can no longer be keys. -/
def refresh (x : Lexer) : Option Lexer := do
  let candidate ← x.refresh? x.candidate
  let outer ← x.outer.mapM x.refresh?
  return { x with candidate, outer }

/-- Opens a block at a column, if that is right of the blocks that are open. -/
def openBlock (x : Lexer) (column number : Nat) (t : Token) : Lexer :=
  if x.flow || column < x.margin then x
  else { x.insert number t with indents := column :: x.indents }

/-- Closes the blocks from a column on. -/
def closeBlocks (x : Lexer) (column : Nat) : Lexer :=
  if x.flow then x
  else
    let closed := x.indents.takeWhile (column ≤ ·)
    { closed.foldl (fun x _ => x.push .blockEnd) x with indents := x.indents.drop closed.length }

/-- Goes to the next token, over white space, comments and line breaks. -/
def skipSpace : Nat → Lexer → Lexer
  | 0, x => x
  | fuel + 1, x =>
    let c := x.cursor
    let c := if c.column == 0 && c.peek? == some byteOrderMark then c.skip else c
    let c := c.dropWhile fun y => y == ' ' || (y == '\t' && (x.flow || !x.startable))
    let c := if c.peek? == some '#' then c.dropWhile (!isBreak ·) else c
    if c.atBreak then
      skipSpace fuel { x with cursor := c.skipBreak, startable := x.startable || !x.flow }
    else x.goto c

def atMarker (x : Lexer) (t : Token) : Option Lexer := do
  let x ← (x.closeBlocks 0).drop
  return { x with cursor := x.cursor.advance 3, startable := false }.push t

def directive (x : Lexer) : Option Lexer := do
  let x ← (x.closeBlocks 0).drop
  let (d, c) ← readDirective x.cursor.skip
  return { x with cursor := ← finishLine c, startable := false }.push (.directive d)

def openBracket (x : Lexer) (t : Token) : Option Lexer := do
  let x ← x.mark
  return { x with
    cursor := x.cursor.skip, startable := true
    candidate := none, outer := x.candidate :: x.outer }.push t

def closeBracket (x : Lexer) (t : Token) : Option Lexer := do
  let x := { ← x.drop with cursor := x.cursor.skip, startable := false }
  match x.outer with
  | [] => return x.push t
  | candidate :: outer => return { x with candidate, outer }.push t

def flowEntry (x : Lexer) : Option Lexer := do
  return { ← x.drop with cursor := x.cursor.skip, startable := true }.push .flowEntry

def blockEntry (x : Lexer) : Option Lexer := do
  if !x.flow && !x.startable then none
  let x := x.openBlock x.cursor.column x.count .blockSequence
  return { ← x.drop with cursor := x.cursor.skip, startable := true }.push .blockEntry

/-- A question mark, which starts a key of any kind. -/
def key (x : Lexer) : Option Lexer := do
  if !x.flow && !x.startable then none
  let x := x.openBlock x.cursor.column x.count .blockMapping
  return { ← x.drop with cursor := x.cursor.skip, startable := !x.flow }.push .key

/-- A colon; the candidate, if there is one, is the key before it. -/
def value (x : Lexer) : Option Lexer :=
  match x.candidate with
  | some c =>
    let x := (x.insert c.number .key).openBlock c.column c.number .blockMapping
    some ({ x with
      candidate := none, cursor := x.cursor.skip, startable := false }.push .value)
  | none =>
    if !x.flow && !x.startable then none
    else
      let x := x.openBlock x.cursor.column x.count .blockMapping
      some ({ x with cursor := x.cursor.skip, startable := !x.flow }.push .value)

def name (x : Lexer) (t : List Char → Token) : Option Lexer := do
  let x ← x.mark
  let (name, c) := x.cursor.skip.takeWhile isNameChar
  let ended := endsWord c.peek? ||
    c.peek?.any (['?', ':', ',', ']', '\x7d', '%', '@', '\x60'].contains ·)
  if name.isEmpty || !ended then none
  return { x with cursor := c, startable := false }.push (t name)

def tag (x : Lexer) : Option Lexer := do
  let x ← x.mark
  let (handle, suffix, c) ← readTag x.flow x.cursor
  return { x with cursor := c, startable := false }.push (.tag handle suffix)

def block (fuel : Nat) (x : Lexer) (style : Style) : Option Lexer := do
  let x ← x.drop
  let (text, c) ← readBlock (style == .folded) x.margin fuel x.cursor.skip
  return { x with cursor := c, startable := true }.push (.scalar text style)

def quoted (fuel : Nat) (x : Lexer) (quote : Char) (word : List Char → Option Word) :
    Option Lexer := do
  let x ← x.mark
  let (text, c) ← readQuoted quote word fuel x.cursor.skip
  return { x with cursor := c, startable := false }.push (.scalar text .quoted)

/-- A key may start after the line breaks behind a plain scalar. -/
def plain (fuel : Nat) (x : Lexer) : Option Lexer := do
  let x ← x.mark
  let (text, broken, c) ← readPlain x.flow x.margin fuel {} x.cursor
  return { x with cursor := c, startable := broken }.push (.scalar text .plain)

/-- The characters that start no plain scalar. -/
def indicators : List Char :=
  ['-', '?', ':', ',', '[', ']', '\x7b', '\x7d', '#', '&', '*', '!', '|', '>', '\'', '"', '%',
    '@', '\x60']

/-- Whether a plain scalar starts with this character, before that one. -/
def startsPlain (flow : Bool) (c : Char) (next : Option Char) : Bool :=
  !(isGap c || isBreak c || indicators.contains c) || (c == '-' && !next.any isGap) ||
    (!flow && (c == '?' || c == ':') && !endsWord next)

/-- Reads the token that starts with `c`. -/
def read (fuel : Nat) (x : Lexer) (c : Char) (next : Option Char) : Option Lexer :=
  let alone := endsWord next
  if x.cursor.column == 0 && c == '%' then x.directive
  else if x.cursor.isTriple '-' then x.atMarker .documentStart
  else if x.cursor.isTriple '.' then x.atMarker .documentEnd
  else if c == '[' then x.openBracket .flowSequence
  else if c == '\x7b' then x.openBracket .flowMapping
  else if c == ']' then x.closeBracket .flowSequenceEnd
  else if c == '\x7d' then x.closeBracket .flowMappingEnd
  else if c == ',' then x.flowEntry
  else if c == '-' && alone then x.blockEntry
  else if c == '?' && (x.flow || alone) then x.key
  else if c == ':' && (x.flow || alone) then x.value
  else if c == '*' then x.name .reference
  else if c == '&' then x.name .anchor
  else if c == '!' then x.tag
  else if c == '|' && !x.flow then x.block fuel .literal
  else if c == '>' && !x.flow then x.block fuel .folded
  else if c == '\'' then x.quoted fuel '\'' singleWord
  else if c == '"' then x.quoted fuel '"' doubleWord
  else if startsPlain x.flow c next then x.plain fuel
  else none

/-- Reads all tokens; each takes a character at least. -/
def run : Nat → Lexer → Option (List Token)
  | 0, _ => none
  | fuel + 1, x => do
    let x ← (x.skipSpace (fuel + 1)).refresh
    match x.cursor.rest with
    | [] => return (← (x.closeBlocks 0).drop).tokens.reverse
    | c :: rest =>
      let x := x.closeBlocks (x.cursor.column + 1)
      run fuel (← x.read (fuel + 1) c rest.head?)

end Lexer

/-- The tokens of a text. -/
def tokens (text : List Char) : Option (List Token) :=
  if text.all isAllowed then Lexer.run (text.length + 2) { cursor := { rest := text } } else none

end ScanGate.Yaml
