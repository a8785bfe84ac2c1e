import ScanGate.Percent
import ScanGate.Text.Split

/-! The path of a URL, as the segments behind its slashes. Dots are resolved: one
dot is the segment itself, two take away the one before. The letter of a drive is
never taken away. -/
namespace ScanGate.Url

abbrev Path := List (List Char)

namespace Path

/-- Whether a segment is one dot, escaped or not. -/
def isDot (cs : List Char) : Bool :=
  let cs := cs.map Char.toLower
  cs == ['.'] || cs == ['%', '2', 'e']

def isDoubleDot (cs : List Char) : Bool :=
  let cs := cs.map Char.toLower
  cs == ['.', '.'] || cs == ['.', '%', '2', 'e'] || cs == ['%', '2', 'e', '.'] ||
    cs == ['%', '2', 'e', '%', '2', 'e']

/-- A letter and a colon, or a bar for the colon. -/
def isDrive : List Char → Bool
  | [c, mark] => c.isAlpha && (mark == ':' || mark == '|')
  | _ => false

/-- Adds a segment to those before it, which are in reverse. At the start of the
path of a file, a drive is written with a colon. -/
def push (file : Bool) (done : Path) (segment : List Char) : Path :=
  if file && done.isEmpty && isDrive segment then [segment.take 1 ++ [':']]
  else segment :: done

/-- The segments without the last one. -/
def shorten (done : Path) : Path :=
  if done.head?.any isDrive then done else done.drop 1

/-- Resolves dots from the first segment on; `done` is in reverse. -/
def resolve (file : Bool) (done : Path) : Path → Path
  | [] => done.reverse
  | [last] =>
    if isDoubleDot last then ([] :: shorten done).reverse
    else if isDot last then ([] :: done).reverse
    else (push file done last).reverse
  | segment :: rest =>
    if isDoubleDot segment then resolve file (shorten done) rest
    else if isDot segment then resolve file done rest
    else resolve file (push file done segment) rest

/-- Removes empty segments at the start, as long as one is left. -/
def trim : Path → Path
  | [] :: segment :: rest => trim (segment :: rest)
  | segments => segments

/-- The segments of a text after its first slash. -/
def ofChars (isSlash : Char → Bool) (file : Bool) (cs : List Char) : Path :=
  resolve file [] (Text.splitAt isSlash cs)

/-- What is kept in a path. -/
def keep (c : Char) : Bool :=
  Percent.isPrintable c && !([' ', '"', '#', '<', '>', '?', '\x60', '\x7b', '\x7d'].contains c)

def text (segments : Path) : String :=
  String.join (segments.map fun segment =>
    "/" ++ String.ofList (Percent.encode keep (String.ofList segment)))

end Path

end ScanGate.Url
