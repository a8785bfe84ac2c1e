import ScanGate.Json.Number

/-! Reading typed data out of JSON values. A record may be written as an object,
in any order and with further members, or as an array of its fields in order.
What is skipped needs to be well formed only; what is read as a value of its own
has to be readable in full. -/
namespace ScanGate.Json

/-- How many members have the key. -/
def occurrences (key : String) (members : List (Option String × Json)) : Nat :=
  members.countP fun member => member.1 == some key

def member? (key : String) : List (Option String × Json) → Option Json
  | [] => none
  | (k, value) :: rest => if k = some key then some value else member? key rest

/-- The fields of a record by name, `none` for an absent one. Every key has to be
a text, no named one may be repeated, and an array may not be longer than the
names. -/
def fields (names : List String) : Json → Option (List (Option Json))
  | object members =>
    if members.all (fun member => member.1.isSome) ∧ names.all (occurrences · members ≤ 1) then
      some (names.map (member? · members))
    else none
  | array items =>
    if items.length ≤ names.length then
      some (items.map some ++ List.replicate (names.length - items.length) none)
    else none
  | _ => none

def text? : Json → Option String
  | string text => text
  | _ => none

/-- `null` and an absent field are both no value. -/
def optional (decode : Json → Option α) : Option Json → Option (Option α)
  | none => some none
  | some null => some none
  | some value => (decode value).map some

/-- `null` and an absent field both give the default. -/
def orDefault (default : α) (decode : Json → Option α) (field : Option Json) : Option α :=
  (optional decode field).map (·.getD default)

/-- The field has to be there. -/
def required (decode : Json → Option α) : Option Json → Option α
  | none => none
  | some value => decode value

def list (decode : Json → Option α) : Json → Option (List α)
  | array items => items.mapM decode
  | _ => none

/-- A whole number below 2^32. -/
def word? : Json → Option UInt32
  | number literal =>
    match numberOf literal with
    | some (.natural n) => if n < Nat.pow 2 32 then some (UInt32.ofNat n) else none
    | _ => none
  | _ => none

def real? : Json → Option Binary64
  | number literal => (numberOf literal).map Number.toBinary64
  | _ => none

/-- How many arrays and objects may be open at once around and in a value that
is read in full. -/
def depthLimit : Nat := 127

mutual

/-- Whether every string is a text and every number has a value. -/
def isWhole : Json → Bool
  | string text => text.isSome
  | number literal => (numberOf literal).isSome
  | array items => wholeItems items
  | object members => wholeMembers members
  | _ => true

def wholeItems : List Json → Bool
  | [] => true
  | item :: rest => item.isWhole && wholeItems rest

def wholeMembers : List (Option String × Json) → Bool
  | [] => true
  | (key, value) :: rest => key.isSome && value.isWhole && wholeMembers rest

end

/-- The value itself, if it can be read in full inside `around` open arrays and
objects. -/
def whole? (around : Nat) (value : Json) : Option Json :=
  if around + value.depth ≤ depthLimit ∧ value.isWhole then some value else none

/-- Puts a member where its key belongs in the order of keys, in place of an
earlier one with the same key. -/
def insertMember (key : String) (value : Json) :
    List (Option String × Json) → List (Option String × Json)
  | [] => [(some key, value)]
  | (k, v) :: rest =>
    if k = some key then (k, value) :: rest
    else if key < k.getD "" then (some key, value) :: (k, v) :: rest
    else (k, v) :: insertMember key value rest

def sortMembers (members : List (Option String × Json)) : List (Option String × Json) :=
  members.foldl (fun sorted (key, value) => insertMember (key.getD "") value sorted) []

mutual

/-- The value with keys sorted, the last of equal ones kept, and numbers written
anew. -/
def normal : Json → Json
  | number literal => number (((numberOf literal).map Number.text).getD literal)
  | array items => array (normalItems items)
  | object members => object (sortMembers (normalMembers members))
  | value => value

def normalItems : List Json → List Json
  | [] => []
  | item :: rest => item.normal :: normalItems rest

def normalMembers : List (Option String × Json) → List (Option String × Json)
  | [] => []
  | (key, value) :: rest => (key, value.normal) :: normalMembers rest

end

end ScanGate.Json
