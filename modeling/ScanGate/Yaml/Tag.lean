import ScanGate.Text.Hex
import ScanGate.Text.Utf8
import ScanGate.Yaml.Cursor

/-! Tags, and the directives that abbreviate them. A tag is a handle and a suffix;
the handle stands for what its directive says. -/
namespace ScanGate.Yaml

/-- The bytes that a run of characters stands for, and how many characters there
are. -/
structure Uri where
  bytes : List UInt8 := []
  length : Nat := 0

def Uri.cons (byte : UInt8) (n : Nat) (u : Uri) : Uri :=
  { bytes := byte :: u.bytes, length := u.length + n }

/-- What counts of it: a zero ends it. -/
def Uri.text (u : Uri) : List UInt8 := u.bytes.takeWhile (· != 0)

def isUriChar (verbatim : Bool) (c : Char) : Bool :=
  isNameChar c || [';', '/', '?', ':', '@', '&', '=', '+', '$', '.', '!', '~', '*', '\'',
    '(', ')'].contains c || (verbatim && [',', '[', ']'].contains c)

/-- The byte of an escape after its percent sign. -/
def escapedByte (a b : Char) : Option UInt8 := do
  return UInt8.ofNat (16 * (← Text.hexValue a) + (← Text.hexValue b))

/-- How many bytes follow the first one of a character. -/
def following? (first : UInt8) : Option Nat :=
  if first < 0x80 then some 0
  else if first < 0xC0 then none
  else if first < 0xE0 then some 1
  else if first < 0xF0 then some 2
  else if first < 0xF8 then some 3
  else none

/-- The characters of a tag. Those that do not stand for themselves are written as
the bytes of their encoding; `pending` of them are still to follow. -/
def readUri (verbatim : Bool) : Nat → List Char → Option Uri
  | pending, '%' :: a :: b :: rest => do
    let byte ← escapedByte a b
    let pending ← match pending with
      | 0 => following? byte
      | n + 1 => if 0x80 ≤ byte && byte < 0xC0 then some n else none
    return (← readUri verbatim pending rest).cons byte 3
  | 0, c :: rest =>
    if c == '%' then none
    else if isUriChar verbatim c then
      (readUri verbatim 0 rest).map (Uri.cons (UInt8.ofNat c.toNat) 1)
    else some {}
  | 0, [] => some {}
  | _ + 1, _ => none

def takeUri (verbatim : Bool) (c : Cursor) : Option (Uri × Cursor) := do
  let uri ← readUri verbatim 0 c.rest
  return (uri, c.advance uri.length)

/-- A handle: an exclamation mark and a name, with or without another mark. -/
def takeHandle (c : Cursor) : List Char × Cursor :=
  let (name, next) := c.skip.takeWhile isNameChar
  if next.peek? == some '!' then ('!' :: name ++ ['!'], next.skip) else ('!' :: name, next)

/-- The bytes of characters. -/
def encoded (cs : List Char) : List UInt8 := Text.encodeUtf8 (String.ofList cs)

/-- The handle and the suffix of a tag. A tag without a handle of its own has the
handle `!`; the tag `!` alone and those between angle brackets have none. -/
def readTag (flow : Bool) (c : Cursor) : Option (List Char × List UInt8 × Cursor) := do
  let (handle, suffix, c) ←
    if (c.rest.drop 1).head? == some '<' then do
      let (uri, next) ← takeUri true (c.advance 2)
      if uri.length = 0 || next.peek? != some '>' then none
      else pure ([], uri.text, next.skip)
    else do
      let (handle, next) := takeHandle c
      if 2 ≤ handle.length && handle.getLast? == some '!' then do
        let (uri, next) ← takeUri false next
        if uri.length = 0 then none else pure (handle, uri.text, next)
      else do
        let (uri, next) ← takeUri false next
        let suffix := encoded (handle.drop 1) ++ uri.text
        if suffix.isEmpty then pure ([], encoded ['!'], next) else pure (['!'], suffix, next)
  if endsWord c.peek? || (flow && c.peek? == some ',') then return (handle, suffix, c)
  else none

/-- The tags that have a meaning for values. -/
def coreTag (name : String) : List UInt8 := encoded ("tag:yaml.org,2002:" ++ name).toList

/-- Whether a tag starts with an exclamation mark. -/
def isMarked (tag : List UInt8) : Bool := [tag.headD 0] == encoded ['!']

/-- Whether a tag is a name of the text's own: marked, and made of characters. -/
def isLocal (tag : List UInt8) : Bool :=
  isMarked tag && (Text.ofUtf8? ⟨(tag.drop 1).toArray⟩).isSome

/-- The handles that need no directive. -/
def standardHandles : List (List Char × List UInt8) :=
  [(['!'], encoded ['!']), (['!', '!'], coreTag "")]

/-- A directive at the start of a document. -/
inductive Directive where
  | version (major minor : Nat)
  | handle (name : List Char) (stem : List UInt8)
  deriving DecidableEq, Repr

/-- A number of at most nine digits. -/
def takeNumber (c : Cursor) : Option (Nat × Cursor) :=
  let (digits, c) := c.takeWhile Char.isDigit
  if digits.isEmpty || 9 < digits.length then none
  else some (digits.foldl (fun n d => 10 * n + (d.toNat - 48)) 0, c)

def readVersion (c : Cursor) : Option (Directive × Cursor) := do
  let (major, c) ← takeNumber (c.dropWhile isGap)
  if c.peek? != some '.' then none
  let (minor, c) ← takeNumber c.skip
  return (.version major minor, c)

def readHandle (c : Cursor) : Option (Directive × Cursor) := do
  let c := c.dropWhile isGap
  if c.peek? != some '!' then none
  let (name, c) := takeHandle c
  if name != ['!'] && (name.length < 2 || name.getLast? != some '!') then none
  if !c.peek?.any isGap then none
  let (uri, c) ← takeUri true (c.dropWhile isGap)
  if uri.length = 0 || !endsWord c.peek? then none
  return (.handle name uri.text, c)

/-- A directive after its percent sign. -/
def readDirective (c : Cursor) : Option (Directive × Cursor) := do
  let (name, c) := c.takeWhile isNameChar
  if name.isEmpty || !endsWord c.peek? then none
  if name == "YAML".toList then readVersion c
  else if name == "TAG".toList then readHandle c
  else none

end ScanGate.Yaml
