import ScanGate.Client
import ScanGate.CommandLine

/-! What is told to a user whose arguments are not accepted, or who asks for help. -/
namespace ScanGate.CommandLine

def Opt.usage (o : Opt) : String :=
  let short := match o.short with
    | some c => "-" ++ c.toString ++ ", "
    | none => "    "
  "  " ++ short ++ (if o.takesValue then o.name else "--" ++ o.long) ++ "\n"

def Grammar.usage (g : Grammar) (name : String) : String :=
  "\nOptions of " ++ name ++ ":\n" ++ String.join (g.options.map Opt.usage)

def usage : String :=
  "Usage: bdba-gate <scan|report|report-pdf|help> [OPTIONS]\n\n" ++
  "Exit codes: 0 = pass, 1 = findings need review, 2 = invalid arguments, " ++
  "3 = error or results not yet available\n" ++
  scanGrammar.usage "scan" ++ reportGrammar.usage "report" ++ pdfGrammar.usage "report-pdf"

namespace Problem

/-- Help and the version were asked for; everything else is wrong. -/
def exitCode : Problem → ExitCode
  | helpRequested => .success
  | versionRequested => .success
  | _ => .invalidArguments

def text : Problem → String
  | helpRequested => usage
  | versionRequested => version ++ "\n"
  | noSubcommand => usage
  | invalidSubcommand => wrong "there is no such command"
  | unknownArgument => wrong "an argument is not known"
  | missingRequired => wrong "a required option is missing"
  | conflict => wrong "options cannot be used together"
  | missingValue => wrong "an option needs a value"
  | tooManyValues => wrong "an option takes no value"
  | badValue option value message =>
    wrong ("invalid value '" ++ value ++ "' for '" ++ option ++ "': " ++ message)
where
  version : String := userAgent.map fun c => if c == '/' then ' ' else c
  wrong (what : String) : String :=
    "error: " ++ what ++ "\n\nFor more information, try '--help'.\n"

end Problem

end ScanGate.CommandLine
