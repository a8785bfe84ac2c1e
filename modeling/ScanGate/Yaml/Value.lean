import ScanGate.Binary64
import ScanGate.Yaml.Node

/-! The values of nodes. A plain scalar is a truth value, a number or nothing at all
if it reads like one, and a text otherwise; a tag can say what it is. -/
namespace ScanGate.Yaml

inductive Value where
  | null
  | bool (b : Bool)
  | integer (i : Int)
  | real (x : Binary64)
  | text (s : List Char)
  | list (items : List Value)
  | record (members : List (Value × Value))

/-! ### Plain scalars -/

def isNull (cs : List Char) : Bool :=
  ["~", "null", "Null", "NULL"].contains (String.ofList cs)

def bool? (cs : List Char) : Option Bool :=
  if ["true", "True", "TRUE"].contains (String.ofList cs) then some true
  else if ["false", "False", "FALSE"].contains (String.ofList cs) then some false
  else none

/-- The number with these digits; at least one is needed. -/
def natural? (base : Nat) (digits : List Char) : Option Nat :=
  if digits.isEmpty then none
  else digits.foldlM (fun n c => do
    let d ← Text.hexValue c
    if d < base then return base * n + d else none) 0

/-- Digits after a zero make no number. -/
def hasLeadingZero : List Char → Bool
  | '0' :: c :: cs => (c :: cs).all Char.isDigit
  | _ => false

/-- A whole number without a sign: decimal, or in base 16, 8 or 2 after a mark. -/
def magnitude? : List Char → Option Nat
  | '0' :: 'x' :: digits => natural? 16 digits
  | '0' :: 'o' :: digits => natural? 8 digits
  | '0' :: 'b' :: digits => natural? 2 digits
  | cs => if hasLeadingZero cs then none else natural? 10 cs

def integer? : List Char → Option Int
  | '+' :: cs => (magnitude? cs).map Int.ofNat
  | '-' :: cs => (magnitude? cs).map fun n => -Int.ofNat n
  | cs => (magnitude? cs).map Int.ofNat

/-- The bits of an integer: as many for a value, and as many for a number at all. -/
def fits (bits : Nat) (i : Int) : Bool :=
  -Int.ofNat (Nat.pow 2 (bits - 1)) ≤ i && i < Int.ofNat (Nat.pow 2 bits)

/-- An exponent with its sign. -/
def exponent? : List Char → Option Int
  | '+' :: cs => (natural? 10 cs).map Int.ofNat
  | '-' :: cs => (natural? 10 cs).map fun n => -Int.ofNat n
  | cs => (natural? 10 cs).map Int.ofNat

/-- The double nearest to `± n · 10^exponent`, unless it is infinite. -/
def nearest? (negative : Bool) (n : Nat) (exponent : Int) : Option Binary64 :=
  let size := (Nat.toDigits 10 n).length + exponent
  if n = 0 ∨ size < -400 then some .zero
  else if 400 < size then none
  else
    let x := Binary64.ofRatio negative (n * Nat.pow 10 exponent.toNat)
      (Nat.pow 10 (-exponent).toNat)
    if x.isZero then some .zero else if x.isInfinite then none else some x

/-- A decimal with or without point and exponent. -/
def decimal? (negative : Bool) (cs : List Char) : Option Binary64 := do
  let whole := cs.takeWhile Char.isDigit
  let (fraction, rest) := match cs.dropWhile Char.isDigit with
    | '.' :: rest => (rest.takeWhile Char.isDigit, rest.dropWhile Char.isDigit)
    | rest => ([], rest)
  let n ← natural? 10 (whole ++ fraction)
  let exponent ← match rest with
    | [] => some 0
    | c :: rest => if c == 'e' || c == 'E' then exponent? rest else none
  nearest? negative n (exponent - fraction.length)

def real? (cs : List Char) : Option Binary64 :=
  let (sign, size) := match cs with
    | '+' :: rest => (some false, rest)
    | '-' :: rest => (some true, rest)
    | rest => (none, rest)
  if [".inf", ".Inf", ".INF"].contains (String.ofList size) then
    some (.infinite (sign.getD false))
  else if sign.isNone && [".nan", ".NaN", ".NAN"].contains (String.ofList size) then some .nan
  else decimal? (sign.getD false) size

/-- What a plain scalar is; nothing if it is an integer of more than 64 bits that 128
bits can hold. -/
def Value.ofPlain (cs : List Char) : Option Value :=
  if cs.isEmpty || isNull cs then some .null
  else
    match bool? cs, integer? cs with
    | some b, _ => some (.bool b)
    | none, some i =>
      if fits 64 i then some (.integer i) else if fits 128 i then none else some (other cs)
    | none, none => some (other cs)
where
  other (cs : List Char) : Value :=
    let size := match cs with
      | '+' :: rest => rest
      | '-' :: rest => rest
      | rest => rest
    if hasLeadingZero size then .text cs
    else
      match real? cs with
      | some x => .real x
      | none => .text cs

/-- What a scalar is. A tag of the text's own has no meaning. -/
def Value.ofScalar (tag : Option (List UInt8)) (cs : List Char) (style : Style) :
    Option Value :=
  match tag with
  | none => if style = .plain then ofPlain cs else some (.text cs)
  | some tag =>
    if isLocal tag then none
    else if tag = coreTag "bool" then (bool? cs).map .bool
    else if tag = coreTag "int" then ((integer? cs).filter (fits 64)).map .integer
    else if tag = coreTag "float" then (real? cs).map .real
    else if tag = coreTag "null" then if isNull cs then some .null else none
    else if isMarked tag && style = .plain then ofPlain cs
    else some (.text cs)

/-! ### Sameness -/

namespace Value

mutual

/-- Whether two values are the same; the order of members does not matter. -/
def same : Value → Value → Bool
  | null, null => true
  | bool a, bool b => a == b
  | integer i, integer j => i == j
  | real x, real y => x == y
  | text s, text t => s == t
  | list xs, list ys => sameItems xs ys
  | record xs, record ys => xs.length == ys.length && within xs ys
  | _, _ => false

def sameItems : List Value → List Value → Bool
  | [], [] => true
  | x :: xs, y :: ys => x.same y && sameItems xs ys
  | _, _ => false

/-- Whether every member of one record is one of the other. -/
def within : List (Value × Value) → List (Value × Value) → Bool
  | [], _ => true
  | (key, value) :: rest, ys =>
    ys.any (fun y => key.same y.1 && value.same y.2) && within rest ys

end

def distinct : List Value → Bool
  | [] => true
  | x :: xs => !xs.any x.same && distinct xs

end Value

/-! ### Documents -/

structure Document where
  root : Node

namespace Document

/-- The node that a number stands for. -/
def target? (d : Document) (number : Nat) : Option Node :=
  d.root.parts.reverse.find? (·.properties.anchor == some number)

/-- How often aliases may be followed: a hundred times for every mark of a node. -/
def patience (d : Document) : Nat :=
  100 * d.root.parts.foldl (fun n node =>
    match node with
    | .sequence .. => n + 2
    | .mapping .. => n + 2
    | _ => n + 1) 0

end Document

/-- A decoder of nodes, with the number of aliases that it may still follow. -/
abbrev Decoder := StateT Nat Option

namespace Document

/-- The node itself, where an alias stands for it. -/
def follow (d : Document) (node : Node) : Decoder Node := do
  match node with
  | .reference number =>
    match ← get, d.target? number with
    | left + 1, some node =>
      set left
      return node
    | _, _ => failure
  | node => return node

/-- A collection has a value if its tag has a meaning. -/
def checkTag (p : Properties) : Decoder Unit :=
  if p.tag.any isLocal then failure else pure ()

/-- The value of a node, with so many collections inside each other at most. The
keys of a record differ. -/
def value (d : Document) (depth : Nat) (node : Node) : Decoder Value := do
  match ← d.follow node with
  | .scalar p text style => Value.ofScalar p.tag text style
  | .sequence p items =>
    checkTag p
    match depth with
    | 0 => failure
    | depth + 1 => return .list (← items.mapM (d.value depth))
  | .mapping p members =>
    checkTag p
    match depth with
    | 0 => failure
    | depth + 1 =>
      let members ← members.mapM fun (key, value) =>
        return (← d.value depth key, ← d.value depth value)
      if Value.distinct (members.map (·.1)) then return .record members else failure
  | .reference _ => failure

/-- The text of a scalar of any kind. -/
def text (d : Document) (node : Node) : Decoder String := do
  match ← d.follow node with
  | .scalar _ text _ => return String.ofList text
  | _ => failure

/-- The node, unless it is an empty or null plain scalar. -/
def present? (d : Document) (node : Node) : Decoder (Option Node) := do
  match ← d.follow node with
  | .scalar p cs .plain =>
    if p.tag = some (coreTag "null") then
      if isNull cs then return none else failure
    else if p.tag.isNone && (cs.isEmpty || isNull cs) then return none
    else return some (.scalar p cs .plain)
  | node => return some node

/-- Reads what is there. -/
def optional (d : Document) (read : Node → Decoder α) (node : Node) : Decoder (Option α) := do
  match ← d.present? node with
  | some node => return some (← read node)
  | none => return none

/-- The characters of a scalar that is no text: a plain one, or a literal one with
the tag. -/
def unquoted (d : Document) (tag : String) (node : Node) : Decoder (List Char) := do
  match ← d.follow node with
  | .scalar p cs style =>
    if style = .plain ∨ (style = .literal ∧ p.tag = some (coreTag tag)) then return cs
    else failure
  | _ => failure

def bool (d : Document) (node : Node) : Decoder Bool := do bool? (← d.unquoted "bool" node)

/-- A number of one byte, without a minus sign. -/
def byte (d : Document) (node : Node) : Decoder Nat := do
  let cs ← d.unquoted "int" node
  match cs.head?, integer? cs with
  | some '-', _ => failure
  | _, some (.ofNat n) => if n < 256 then return n else failure
  | _, _ => failure

/-- The members of the root; none in an empty document. -/
def members (d : Document) : Decoder (List (Node × Node)) :=
  match d.root with
  | .mapping _ members => return members
  | .scalar _ [] .plain => return []
  | _ => failure

end Document

end ScanGate.Yaml
