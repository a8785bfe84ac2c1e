import ScanGate.Yaml.Token

/-! The tree of a YAML text. A node that has an anchor carries a number: how many
different anchor names came before it. An alias carries the number that its name
has at that place, and stands for the last node of the document with that number.
The fuel of the readers bounds the nesting of their calls and is taken from the
number of tokens: of two calls inside each other one takes a token. -/
namespace ScanGate.Yaml

structure Properties where
  anchor : Option Nat := none
  tag : Option (List UInt8) := none
  deriving DecidableEq, Repr

inductive Node where
  | scalar (properties : Properties) (text : List Char) (style : Style)
  | sequence (properties : Properties) (items : List Node)
  | mapping (properties : Properties) (members : List (Node × Node))
  | reference (number : Nat)

namespace Node

/-- Stands where a node is left out. -/
def empty (properties : Properties) : Node := scalar properties [] .plain

instance : Inhabited Node := ⟨empty {}⟩

def properties : Node → Properties
  | scalar p _ _ => p
  | sequence p _ => p
  | mapping p _ => p
  | reference _ => {}

mutual

/-- The nodes with their parts, in the order of the text. -/
def parts : Node → List Node
  | sequence p items => sequence p items :: partsOfItems items
  | mapping p members => mapping p members :: partsOfMembers members
  | node => [node]

def partsOfItems : List Node → List Node
  | [] => []
  | item :: rest => item.parts ++ partsOfItems rest

def partsOfMembers : List (Node × Node) → List Node
  | [] => []
  | (key, value) :: rest => key.parts ++ value.parts ++ partsOfMembers rest

end

end Node

/-- What is left of the tokens, and the numbers of the anchor names so far. -/
structure Reading where
  tokens : List Token
  names : List (List Char × Nat) := []

/-- A reader of tokens, with the meaning of the handles. -/
abbrev Reader := ReaderT (List (List Char × List UInt8)) (StateT Reading Option)

namespace Reader

def peek? : Reader (Option Token) := return (← get).tokens.head?

def skip : Reader Unit := modify fun r => { r with tokens := r.tokens.drop 1 }

/-- Takes this token if it comes next. -/
def accept (t : Token) : Reader Bool := do
  if (← peek?) == some t then
    skip
    return true
  else return false

def expect (t : Token) : Reader Unit := do
  if !(← accept t) then failure

def anchor? : Reader (Option (List Char)) := do
  match ← peek? with
  | some (.anchor name) => skip; return some name
  | _ => return none

/-- A tag with its handle replaced. -/
def tag? : Reader (Option (List UInt8)) := do
  match ← peek? with
  | some (.tag handle suffix) =>
    skip
    if handle.isEmpty then return some suffix
    match (← read).lookup handle with
    | some stem => return some (stem ++ suffix)
    | none => failure
  | _ => return none

/-- The number of a name that is given to a node. -/
def define (name : List Char) : Reader Nat := do
  let names := (← get).names
  let number := names.length
  modify fun r => { r with names := (name, number) :: names.filter (·.1 != name) }
  return number

/-- Anchor and tag, in any order. -/
def properties : Reader Properties := do
  let before ← anchor?
  let tag ← tag?
  let after ← if before.isNone && tag.isSome then anchor? else pure none
  match before <|> after with
  | some name => return { anchor := some (← define name), tag }
  | none => return { tag }

/-- Leaves a node out before one of these tokens. -/
def nodeUnless (ends : List Token) (node : Reader Node) : Reader Node := do
  if (← peek?).any ends.contains then return .empty {} else node

/-- Leaves out a node that has an anchor or a tag at least. -/
def leftOut (p : Properties) : Reader Node :=
  if p.anchor.isSome || p.tag.isSome then return .empty p else failure

mutual

/-- A node; blocks may start here if `block` is set, and a sequence without an
indentation of its own if `indentless` is. -/
def node (block indentless : Bool) : Nat → Reader Node
  | 0 => failure
  | fuel + 1 => do
    match ← peek? with
    | some (.reference name) =>
      skip
      match (← get).names.lookup name with
      | some number => return .reference number
      | none => failure
    | _ =>
      let p ← properties
      match ← peek? with
      | some .blockEntry =>
        if indentless then return .sequence p (← flatItems fuel)
        else leftOut p
      | some (.scalar text style) =>
        skip
        return .scalar p text style
      | some .flowSequence =>
        skip
        return .sequence p (← flowItems true fuel)
      | some .flowMapping =>
        skip
        return .mapping p (← flowMembers true fuel)
      | some .blockSequence =>
        if block then
          skip
          return .sequence p (← blockItems fuel)
        else leftOut p
      | some .blockMapping =>
        if block then
          skip
          return .mapping p (← blockMembers fuel)
        else leftOut p
      | _ => leftOut p

/-- The entries of a block sequence. -/
def blockItems : Nat → Reader (List Node)
  | 0 => failure
  | fuel + 1 => do
    if ← accept .blockEnd then return []
    expect .blockEntry
    let item ← nodeUnless [.blockEntry, .blockEnd] (node true false fuel)
    return item :: (← blockItems fuel)

/-- The entries of a sequence that is indented like the mapping around it. -/
def flatItems : Nat → Reader (List Node)
  | 0 => failure
  | fuel + 1 => do
    if !(← accept .blockEntry) then return []
    let item ← nodeUnless [.blockEntry, .key, .value, .blockEnd] (node true false fuel)
    return item :: (← flatItems fuel)

def blockMembers : Nat → Reader (List (Node × Node))
  | 0 => failure
  | fuel + 1 => do
    if ← accept .blockEnd then return []
    expect .key
    let ends := [.key, .value, .blockEnd]
    let key ← nodeUnless ends (node true true fuel)
    let value ←
      if ← accept .value then nodeUnless ends (node true true fuel) else pure (.empty {})
    return (key, value) :: (← blockMembers fuel)

/-- The entries of a sequence in brackets. A key makes an entry a mapping with one
member. -/
def flowItems (first : Bool) : Nat → Reader (List Node)
  | 0 => failure
  | fuel + 1 => do
    if ← accept .flowSequenceEnd then return []
    if !first then expect .flowEntry
    if ← accept .flowSequenceEnd then return []
    let item ← if ← accept .key then pair fuel else node false false fuel
    return item :: (← flowItems false fuel)

/-- A mapping with one member. Where the key is left out, the token after it is
skipped. -/
def pair : Nat → Reader Node
  | 0 => failure
  | fuel + 1 => do
    let key ←
      if (← peek?).any [.value, .flowEntry, .flowSequenceEnd].contains then do
        skip
        pure (.empty {})
      else node false false fuel
    let value ←
      if ← accept .value then
        nodeUnless [.flowEntry, .flowSequenceEnd] (node false false fuel)
      else pure (.empty {})
    return .mapping {} [(key, value)]

def flowMembers (first : Bool) : Nat → Reader (List (Node × Node))
  | 0 => failure
  | fuel + 1 => do
    if ← accept .flowMappingEnd then return []
    if !first then expect .flowEntry
    if ← accept .flowMappingEnd then return []
    let ends := [.value, .flowEntry, .flowMappingEnd]
    if ← accept .key then
      let key ← nodeUnless ends (node false false fuel)
      let value ←
        if ← accept .value then
          nodeUnless [.flowEntry, .flowMappingEnd] (node false false fuel)
        else pure (.empty {})
      return (key, value) :: (← flowMembers false fuel)
    else
      let key ← node false false fuel
      return (key, .empty {}) :: (← flowMembers false fuel)

end

/-- Reads directives; no version is given twice and no handle either. -/
def directives : Nat → Bool → List (List Char × List UInt8) →
    Reader (List (List Char × List UInt8))
  | 0, _, _ => failure
  | fuel + 1, versioned, handles => do
    match ← peek? with
    | some (.directive (.version major minor)) =>
      skip
      if versioned || major ≠ 1 || (minor ≠ 1 && minor ≠ 2) then failure
      directives fuel true handles
    | some (.directive (.handle name stem)) =>
      skip
      if (handles.lookup name).isSome then failure
      directives fuel versioned (handles ++ [(name, stem)])
    | _ => return handles ++ standardHandles

/-- A document. Without directives its start need not be marked, but then it may not
be empty. -/
def document (fuel : Nat) : Reader Node := do
  let marked ← match ← peek? with
    | some (.directive _) => pure true
    | some .documentStart => pure true
    | _ => pure false
  if marked then
    let handles ← directives fuel false []
    expect .documentStart
    match ← peek? with
    | none => return .empty {}
    | some .documentEnd => return .empty {}
    | _ => fun _ => node true false fuel handles
  else node true false fuel

/-- After the document come only marks of its end. -/
def finish : Reader Unit := do
  if (← get).tokens.all (· == .documentEnd) then return else failure

end Reader

/-- The document of a text, `some none` if there is none. A text with more than one
is refused. -/
def parse? (text : String) : Option (Option Node) := do
  let tokens ← tokens text.toList
  if tokens.isEmpty then return none
  let reader : Reader Node := do
    let root ← Reader.document (2 * tokens.length + 2)
    Reader.finish
    return root
  let (root, _) ← (reader.run standardHandles).run { tokens }
  return some root

end ScanGate.Yaml
