import ScanGate.Percent
import ScanGate.Url.Address
import ScanGate.Url.Domain

/-! The host of a URL: a domain, four bytes, or eight groups in brackets. A domain
whose last label is a number is read as four bytes. A scheme without hosts of a
known kind has any text there. -/
namespace ScanGate.HostName

/-- The groups between brackets, if there are brackets. -/
def bracketed? : List Char → Option (Option (List Char))
  | '[' :: rest =>
    match rest.reverse with
    | ']' :: inner => some (Address.eight? inner.reverse)
    | _ => some none
  | _ => none

/-- The host of a URL whose scheme has domains. -/
def ofDomain? (cs : List Char) : Option String :=
  match bracketed? cs with
  | some groups => groups.map String.ofList
  | none => do
    let name ← Text.ofUtf8? ⟨(Percent.decodeBytes cs).toArray⟩
    let ascii ← Domain.toAscii? name.toList
    if ascii.isEmpty then none
    else if Address.endsInNumber ascii then (Address.four? ascii).map String.ofList
    else return String.ofList ascii

/-- Characters that no host may have. -/
def isForbidden (c : Char) : Bool :=
  c.toNat == 0 || ['\t', '\n', '\r', ' ', '#', '/', ':', '<', '>', '?', '@', '[', '\\', ']', '^',
    '|'].contains c

/-- The host of a URL of any other scheme. -/
def ofText? (cs : List Char) : Option String :=
  match bracketed? cs with
  | some groups => groups.map String.ofList
  | none =>
    if cs.any isForbidden then none
    else some (String.ofList (Percent.encode Percent.isPrintable (String.ofList cs)))

end ScanGate.HostName
