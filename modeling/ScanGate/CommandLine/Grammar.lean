import ScanGate.Host
import ScanGate.ProductId
import ScanGate.Threshold
import ScanGate.View.Render

/-! Command lines with options. A grammar lists the options of a command and the
rules between them: groups of which at most one, or at least one, may be given,
options that need another one, and options that exclude each other. Options are
read from left to right; a value that stands apart from its option is looked at
when the next option, or the end, is reached. -/
namespace ScanGate.CommandLine

/-- The options of all commands. -/
inductive Key where
  | username
  | password
  | token
  | host
  | insecure
  | config
  | uploadFile
  | uploadUrl
  | group
  | saveId
  | productId
  | savedId
  | threshold
  | exceptVariable
  | exceptUrl
  | exceptFile
  | format
  | output
  | advisory
  | help
  | version
  deriving DecidableEq, Repr

/-- What an option takes. -/
inductive Shape where
  | switch
  | text
  | path
  | host
  | product
  | threshold
  | format
  /-- Ends the reading with a text for the user. -/
  | help
  | version
  deriving DecidableEq, Repr

inductive Value where
  | on
  | text (s : String)
  | product (id : ProductId)
  | threshold (t : Threshold)
  | format (f : Format)
  deriving DecidableEq

/-- Why arguments are not accepted, or what the user asked for instead. -/
inductive Problem where
  | helpRequested
  | versionRequested
  | noSubcommand
  | invalidSubcommand
  | unknownArgument
  | missingRequired
  | conflict
  | missingValue
  | tooManyValues
  | badValue (option value message : String)
  deriving DecidableEq, Repr

structure Opt where
  key : Key
  long : String
  short : Option Char := none
  /-- What stands for the value in the option's name. -/
  placeholder : String := ""
  shape : Shape
  deriving DecidableEq, Repr

namespace Opt

def takesValue (o : Opt) : Bool :=
  match o.shape with
  | .switch => false
  | .help => false
  | .version => false
  | _ => true

def name (o : Opt) : String := "--" ++ o.long ++ " <" ++ o.placeholder ++ ">"

end Opt

/-- Digits after a number, up to a bound; the text says what is wrong with the
first digit that does not fit or is none. -/
def appendDigits (bound : Nat) (overflow : String) : Nat → List Char → Except String Nat
  | n, [] => .ok n
  | n, c :: cs =>
    if !c.isDigit then .error "invalid digit found in string"
    else if bound < 10 * n + (c.toNat - 48) then .error overflow
    else appendDigits bound overflow (10 * n + (c.toNat - 48)) cs

/-- A whole number with or without a sign, in the range of 64 bits. -/
def readInt (s : String) : Except String Int :=
  match s.toList with
  | [] => .error "cannot parse integer from empty string"
  | ['-'] => .error "invalid digit found in string"
  | ['+'] => .error "invalid digit found in string"
  | '-' :: digits => (appendDigits bound tooSmall 0 digits).map fun n => -(Int.ofNat n)
  | '+' :: digits => (appendDigits (bound - 1) tooLarge 0 digits).map Int.ofNat
  | digits => (appendDigits (bound - 1) tooLarge 0 digits).map Int.ofNat
where
  bound : Nat := Nat.pow 2 63
  tooSmall : String := "number too small to fit in target type"
  tooLarge : String := "number too large to fit in target type"

def readThreshold (s : String) : Except String Threshold :=
  match readInt s with
  | .error text => .error text
  | .ok i =>
    if h : 0 ≤ i ∧ i ≤ 10 then .ok ⟨i.toNat, by omega⟩
    else .error (toString i ++ " is not in 0..=10")

/-- The value of an option from its text. -/
def Opt.read (o : Opt) (s : String) : Except Problem Value :=
  let checked (result : Except String Value) : Except Problem Value :=
    match result with
    | .ok v => .ok v
    | .error text => .error (.badValue o.name s text)
  match o.shape with
  | .path => if s.isEmpty then .error .missingValue else .ok (.text s)
  | .host =>
    match Host.check s with
    | .ok () => .ok (.text (Text.trim s))
    | .error failure => .error (.badValue o.name s failure.message)
  | .product =>
    match ProductId.ofString s with
    | .ok id => .ok (.product id)
    | .error failure => .error (.badValue o.name s failure.message)
  | .threshold => checked ((readThreshold s).map Value.threshold)
  | .format => checked ((Format.ofName s).map Value.format)
  | _ => .ok (.text s)

/-- The options that were given, with their values. -/
abbrev Given := List (Key × Value)

structure Grammar where
  options : List Opt
  /-- Groups of which at most one is given. -/
  exclusive : List (List Key) := []
  /-- Groups of which at least one is given. -/
  required : List (List Key) := []
  /-- Pairs of which the second is given when the first is. -/
  needs : List (Key × Key) := []
  /-- Pairs of which not both are given. -/
  conflicts : List (Key × Key) := []

/-- What has been read so far: the options given, and the last one with the value
that followed it, still to be looked at. -/
structure Progress where
  given : Given := []
  pending : Option (Opt × Option String) := none

namespace Progress

def has (given : Given) (key : Key) : Bool := given.any (·.1 == key)

/-- No option is given twice. -/
def add (p : Progress) (o : Opt) (value : Except Problem Value) : Except Problem Progress :=
  if has p.given o.key then .error .conflict
  else value.map fun v => { p with given := p.given ++ [(o.key, v)] }

/-- Looks at the option that is pending. -/
def settle (p : Progress) : Except Problem Progress :=
  match p.pending with
  | none => .ok p
  | some (_, none) => .error .missingValue
  | some (o, some s) => add { p with pending := none } o (o.read s)

/-- Whether the next argument is taken for a value unless it is an option. -/
def isWaiting (p : Progress) : Bool :=
  match p.pending with
  | some (_, none) => true
  | _ => false

/-- An option with the value attached to it, if one is. -/
def take (p : Progress) (o : Opt) (attached : Option String) : Except Problem Progress :=
  if o.takesValue then do
    let p ← p.settle
    match attached with
    | some s => p.add o (o.read s)
    | none => return { p with pending := some (o, none) }
  else
    match attached with
    | some _ => .error .tooManyValues
    | none => do
      let p ← p.settle
      match o.shape with
      | .help => .error .helpRequested
      | .version => .error .versionRequested
      | _ => p.add o (.ok .on)

end Progress

namespace Grammar

def long? (g : Grammar) (name : String) : Option Opt := g.options.find? (·.long == name)

def short? (g : Grammar) (c : Char) : Option Opt := g.options.find? (·.short == some c)

/-- A long option, cut at its first equals sign. -/
def readLong (g : Grammar) (p : Progress) (cs : List Char) : Except Problem Progress :=
  let attached := match cs.dropWhile (· != '=') with
    | _ :: value => some (String.ofList value)
    | [] => none
  match g.long? (String.ofList (cs.takeWhile (· != '='))) with
  | some o => p.take o attached
  | none => .error .unknownArgument

/-- Short options; one that takes a value takes the rest of the argument, without
an equals sign at its start. -/
def readShort (g : Grammar) (p : Progress) : List Char → Except Problem Progress
  | [] => .ok p
  | c :: rest =>
    match g.short? c with
    | none => .error .unknownArgument
    | some o =>
      if o.takesValue then
        match rest with
        | [] => p.take o none
        | '=' :: value => p.take o (some (String.ofList value))
        | value => p.take o (some (String.ofList value))
      else do
        let p ← p.take o none
        g.readShort p rest

/-- Reads the arguments of a command that has options only. -/
def read (g : Grammar) (p : Progress) : List String → Except Problem Progress
  | [] => p.settle
  | arg :: rest =>
    match arg.toList with
    -- after two hyphens come arguments that are no options, and none is taken
    | ['-', '-'] => if rest.isEmpty then p.settle else .error .unknownArgument
    | '-' :: '-' :: cs => do g.read (← g.readLong p cs) rest
    | '-' :: c :: cs => do g.read (← g.readShort p (c :: cs)) rest
    | _ =>
      match p.pending with
      | some (o, none) => g.read { p with pending := some (o, some arg) } rest
      | _ => .error .unknownArgument

/-- Whether two options may not be given together. -/
def excludes (g : Grammar) (a b : Key) : Bool :=
  a != b && (g.conflicts.any (fun c => c == (a, b) || c == (b, a)) ||
    g.exclusive.any (fun group => group.contains a && group.contains b))

def check (g : Grammar) (given : Given) : Except Problem Unit :=
  if given.any (fun x => given.any fun y => g.excludes x.1 y.1) then .error .conflict
  else if g.required.any (fun group => !group.any (Progress.has given)) ||
      g.needs.any (fun (a, b) => Progress.has given a && !Progress.has given b) then
    .error .missingRequired
  else .ok ()

/-- The options given in the arguments, all rules kept. -/
def parse (g : Grammar) (args : List String) : Except Problem Given := do
  let p ← g.read {} args
  g.check p.given
  return p.given

end Grammar

end ScanGate.CommandLine
