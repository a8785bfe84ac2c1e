import ScanGate.Json.Basic
import ScanGate.Text.Hex

/-! Writing JSON, on one line or indented. Quotes, backslashes and control
characters are escaped and nothing else is. -/
namespace ScanGate.Json

/-- How a character is written inside a string. -/
def escapeChar (c : Char) : List Char :=
  if c = '"' then ['\\', '"']
  else if c = '\\' then ['\\', '\\']
  else if c = '\n' then ['\\', 'n']
  else if c = '\r' then ['\\', 'r']
  else if c = '\t' then ['\\', 't']
  else if c.toNat = 8 then ['\\', 'b']
  else if c.toNat = 12 then ['\\', 'f']
  else if c.toNat < 0x20 then ['\\', 'u'] ++ Text.hexDigits 4 c.toNat
  else [c]

def quoteChars (cs : List Char) : List Char := '"' :: cs.flatMap escapeChar ++ ['"']

/-- A string that stands for no text is written as half of a surrogate pair. -/
def writeText : Option String → List Char
  | some s => quoteChars s.toList
  | none => "\"\\ud800\"".toList

mutual

/-- The value on one line, without blanks. -/
def write : Json → List Char
  | null => ['n', 'u', 'l', 'l']
  | bool true => ['t', 'r', 'u', 'e']
  | bool false => ['f', 'a', 'l', 's', 'e']
  | number literal => literal.toList
  | string text => writeText text
  | array [] => ['[', ']']
  | array (item :: rest) => '[' :: item.write ++ writeItems rest
  | object [] => ['\x7b', '\x7d']
  | object ((key, value) :: rest) =>
    '\x7b' :: writeText key ++ ':' :: value.write ++ writeMembers rest

def writeItems : List Json → List Char
  | [] => [']']
  | item :: rest => ',' :: item.write ++ writeItems rest

def writeMembers : List (Option String × Json) → List Char
  | [] => ['\x7d']
  | (key, value) :: rest => ',' :: writeText key ++ ':' :: value.write ++ writeMembers rest

end

/-- A line feed and two blanks for every level. -/
def newline (level : Nat) : List Char := '\n' :: List.replicate (2 * level) ' '

mutual

/-- The value with every item and member on a line of its own. -/
def indent (level : Nat) : Json → List Char
  | array [] => ['[', ']']
  | array (item :: rest) =>
    '[' :: newline (level + 1) ++ item.indent (level + 1) ++ indentItems level rest
  | object [] => ['\x7b', '\x7d']
  | object ((key, value) :: rest) =>
    '\x7b' :: newline (level + 1) ++ writeText key ++ ':' :: ' ' ::
      value.indent (level + 1) ++ indentMembers level rest
  | value => value.write

def indentItems (level : Nat) : List Json → List Char
  | [] => newline level ++ [']']
  | item :: rest =>
    ',' :: newline (level + 1) ++ item.indent (level + 1) ++ indentItems level rest

def indentMembers (level : Nat) : List (Option String × Json) → List Char
  | [] => newline level ++ ['\x7d']
  | (key, value) :: rest =>
    ',' :: newline (level + 1) ++ writeText key ++ ':' :: ' ' ::
      value.indent (level + 1) ++ indentMembers level rest

end

def compact (value : Json) : String := String.ofList value.write

def pretty (value : Json) : String := String.ofList (value.indent 0)

end ScanGate.Json
