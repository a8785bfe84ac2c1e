import ScanGate.Url.HostName
import ScanGate.Url.Path

/-! Addresses of the web. Reading a URL normalises it: the scheme and the host
become lowercase, a backslash counts as a slash, the usual port is dropped, dots in
the path are resolved and characters that do not belong are escaped. A scheme that
is not one of the web leaves more as it is; files have hosts of their own kind. -/
namespace ScanGate

structure Url where
  scheme : String
  /-- User name and password, escaped. -/
  user : Option (String × String) := none
  /-- The host; it may be empty. -/
  host : Option String := none
  port : Option Nat := none
  path : String := ""
  query : Option String := none
  fragment : Option String := none
  deriving DecidableEq, Repr

namespace Url

/-- The schemes with domains and slashes of their own, and their usual ports. -/
def usualPort : String → Option Nat
  | "http" => some 80
  | "https" => some 443
  | "ws" => some 80
  | "wss" => some 443
  | "ftp" => some 21
  | _ => none

def isWeb (u : Url) : Bool := u.scheme == "http" || u.scheme == "https"

/-! ### Escapes -/

/-- What is kept in a fragment, a query and a user name. -/
def keepFragment (c : Char) : Bool :=
  Percent.isPrintable c && !([' ', '"', '<', '>', '\x60'].contains c)

def keepQuery (c : Char) : Bool :=
  Percent.isPrintable c && !([' ', '"', '#', '<', '>'].contains c)

def keepSpecialQuery (c : Char) : Bool := keepQuery c && c != '\''

def keepUser (c : Char) : Bool :=
  Path.keep c && !(['/', ':', ';', '=', '@', '[', '\\', ']', '^', '|'].contains c)

def encode (keep : Char → Bool) (cs : List Char) : String :=
  String.ofList (Percent.encode keep (String.ofList cs))

/-! ### Parts -/

/-- Removes blanks and control characters at both ends, and tabs and line ends
everywhere. -/
def clean (cs : List Char) : List Char :=
  let outer (c : Char) : Bool := c.toNat ≤ 0x20
  let cs := ((cs.dropWhile outer).reverse.dropWhile outer).reverse
  cs.filter fun c => c != '\t' && c != '\n' && c != '\r'

def isSchemeChar (c : Char) : Bool := c.isAlphanum || c == '+' || c == '-' || c == '.'

/-- The scheme and what follows its colon. -/
def splitScheme (cs : List Char) : Option (String × List Char) :=
  match cs.takeWhile isSchemeChar, cs.dropWhile isSchemeChar with
  | c :: scheme, ':' :: rest =>
    if c.isAlpha then some (String.ofList ((c :: scheme).map Char.toLower), rest) else none
  | _, _ => none

/-- Splits at the last at sign, if there is one. -/
def splitUser (cs : List Char) : Option (List Char) × List Char :=
  let back := cs.reverse
  match back.dropWhile (· != '@') with
  | [] => (none, cs)
  | _ :: front => (some front.reverse, (back.takeWhile (· != '@')).reverse)

/-- The host and what follows it: a port after a colon outside brackets. -/
def splitPort : (inside : Bool) → List Char → List Char × Option (List Char)
  | _, [] => ([], none)
  | inside, c :: rest =>
    if c = ':' ∧ !inside then ([], some rest)
    else
      let (host, port) := splitPort (c == '[' || (inside && c != ']')) rest
      (c :: host, port)

/-- A slash; for some schemes a backslash is one too. -/
def isSlash (special : Bool) (c : Char) : Bool := c == '/' || (special && c == '\\')

/-- Whether host and port end here. -/
def endsAuthority (special : Bool) (c : Char) : Bool :=
  isSlash special c || c == '?' || c == '#'

/-- A port, the usual one of the scheme left out; nothing for digits that are none. -/
def port? (scheme : String) (cs : List Char) : Option (Option Nat) :=
  if cs.isEmpty then some none
  else
    let n := cs.foldl (fun n c => 10 * n + (c.toNat - 48)) 0
    if 65535 < n then none
    else if usualPort scheme = some n then some none
    else some (some n)

/-- User name and password of an address; two empty ones are none. -/
def user? (info : List Char) : Option (String × String) :=
  let (name, password) := Text.cut (· == ':') info
  let user := (encode keepUser name, encode keepUser (password.drop 1))
  if user.1.isEmpty && user.2.isEmpty then none else some user

/-- What stands between the slashes before the host and the path. -/
structure Authority where
  user : Option (String × String)
  host : String
  port : Option Nat
  deriving DecidableEq, Repr

/-- Reads user, host and port; what follows them is the path and the rest. Where a
host may be empty, there is neither user nor port without one. -/
def authority? (scheme : String) (special : Bool) (cs : List Char) :
    Option (Authority × List Char) := do
  let (front, tail) := Text.cut (endsAuthority special) cs
  let (info, hostPort) := splitUser front
  if info == some [] && hostPort.isEmpty && !tail.isEmpty then none
  let user := info.bind user?
  let (name, after) := splitPort false hostPort
  let host ← if special then HostName.ofDomain? name else HostName.ofText? name
  if host.isEmpty && (user.isSome || after.isSome) then none
  let (digits, rest) := Text.cut (!Char.isDigit ·) (after.getD [])
  if !rest.isEmpty && rest.head? != some '\\' then none
  return (⟨user, host, ← port? scheme digits⟩, rest ++ tail)

/-- Splits off the query and the fragment. -/
def splitTail (special : Bool) (cs : List Char) :
    List Char × Option String × Option String :=
  let (front, fragment) := Text.cut (· == '#') cs
  let (path, query) := Text.cut (· == '?') front
  let keep := if special then keepSpecialQuery else keepQuery
  (path, (query.tail?).map (encode keep), (fragment.tail?).map (encode keepFragment))

/-- A path that starts with a slash, which is there or is put there. -/
def absolutePath (special : Bool) (cs : List Char) : String :=
  let cs := if cs.head?.any (isSlash special) then cs.drop 1 else cs
  (Path.ofChars (isSlash special) false cs).text

/-! ### Reading -/

/-- An address whose scheme has domains. -/
def ofSpecial? (scheme : String) (rest : List Char) : Option Url := do
  let (authority, tail) ← authority? scheme true (rest.dropWhile (isSlash true))
  let (path, query, fragment) := splitTail true tail
  return {
    scheme, user := authority.user, host := some authority.host, port := authority.port
    path := absolutePath true path, query, fragment }

/-- An address of any other scheme: with a host after two slashes, or none. -/
def ofOther? (scheme : String) (rest : List Char) : Option Url := do
  match rest with
  | '/' :: '/' :: rest =>
    let (authority, tail) ← authority? scheme false rest
    let (path, query, fragment) := splitTail false tail
    return {
      scheme, user := authority.user, host := some authority.host, port := authority.port
      path := if path.isEmpty then "" else absolutePath false path, query, fragment }
  | _ =>
    let (path, query, fragment) := splitTail false rest
    return {
      scheme, query, fragment
      path := if path.head? == some '/' then absolutePath false path
        else encode Percent.isPrintable path }

/-- The host of a file and its path. A drive stands in place of a host, and the host
of the own machine is left out. -/
def fileParts? (rest : List Char) : Option (String × Path) := do
  let path (cs : List Char) : Path := Path.ofChars (isSlash true) true cs
  match rest.span (isSlash true) with
  | ([], cs) => return ("", path cs)
  | ([_], cs) => return ("", path cs)
  | (_ :: _ :: more, cs) =>
    let (name, tail) := Text.cut (isSlash true) (more ++ cs)
    if name.isEmpty || Path.isDrive name then return ("", path (more ++ cs))
    let host ← HostName.ofDomain? name
    if host == "localhost" then return ("", path tail)
    let segments := path (tail.drop 1)
    return (if segments.head?.any Path.isDrive then "" else host, segments)

/-- The address of a file. Its path keeps no empty segment at the start. -/
def ofFile? (rest : List Char) : Option Url := do
  let (cs, query, fragment) := splitTail true rest
  let (host, segments) ← fileParts? cs
  return { scheme := "file", host := some host, path := segments.trim.text, query, fragment }

def parse? (s : String) : Option Url := do
  let (scheme, rest) ← splitScheme (clean s.toList)
  if scheme == "file" then ofFile? rest
  else if (usualPort scheme).isSome then ofSpecial? scheme rest
  else ofOther? scheme rest

/-! ### Writing -/

/-- What comes before the path: the host with user and port, or a dot where the path
would be taken for a host. -/
def front (u : Url) : String :=
  match u.host with
  | none => if u.path.toList.take 2 == ['/', '/'] then "/." else ""
  | some host =>
    let user := match u.user with
      | some (name, password) =>
        name ++ (if password.isEmpty then "" else ":" ++ password) ++ "@"
      | none => ""
    let port := match u.port with
      | some n => ":" ++ toString n
      | none => ""
    "//" ++ user ++ host ++ port

def text (u : Url) : String :=
  let tail (mark : String) : Option String → String
    | some t => mark ++ t
    | none => ""
  u.scheme ++ ":" ++ u.front ++ u.path ++ tail "?" u.query ++ tail "#" u.fragment

/-! ### Requests -/

/-- The longest address that a request may have, in bytes. -/
def maxLength : Nat := 65534

/-- Whether a request can be sent there: the host has no character that a request
may not have, and the address is not too long. -/
def isSendable (u : Url) : Bool :=
  u.isWeb && u.text.utf8ByteSize ≤ maxLength &&
    !(u.host.getD "").toList.any (['"', '\x60', '\x7b', '\x7d'].contains ·)

end Url

end ScanGate
