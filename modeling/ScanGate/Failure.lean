/-! Why a run fails. Each constructor is a cause; `message` words it, and
`causes` lists the texts of the failures beneath it, innermost last. -/
namespace ScanGate

/-- What the operating system answers when it cannot do a file operation. -/
inductive OsError where
  | notFound
  | notDirectory
  | isDirectory
  | denied
  | nameTooLong
  | tooManyLinks
  | nulInPath
  | other (text : String)
  deriving DecidableEq, Repr

namespace OsError

def text : OsError → String
  | notFound => "No such file or directory (os error 2)"
  | notDirectory => "Not a directory (os error 20)"
  | isDirectory => "Is a directory (os error 21)"
  | denied => "Permission denied (os error 13)"
  | nameTooLong => "File name too long (os error 36)"
  | tooManyLinks => "Too many levels of symbolic links (os error 40)"
  | nulInPath => "file name contained an unexpected NUL byte"
  | other text => text

end OsError

/-- Why a host name is not accepted; the text is the name as given. -/
inductive HostProblem where
  | blank
  | protocol (host : String)
  | path (host : String)
  | whitespace (host : String)
  deriving DecidableEq, Repr

namespace HostProblem

def text : HostProblem → String
  | blank => "Host must not be empty"
  | protocol host =>
    "Host '" ++ host ++ "' must not include a protocol (https:// is added automatically)"
  | path host => "Host '" ++ host ++ "' must not contain a path or query"
  | whitespace host => "Host '" ++ host ++ "' must not contain whitespace"

end HostProblem

inductive Failure where
  /-- No complete answer came from the scan service. -/
  | exchange (operation details : String)
  /-- The scan service answered with a status outside 200..299. -/
  | refused (operation : String) (status : Nat)
  | source (description details : String)
  | idFile (path details : String)
  | unreadable (path details : String)
  | unwritable (path details : String)
  | configuration (reason hint : String)
  | invalid (problem : String)
  | host (problem : HostProblem)
  | metadata (what : String) (error : OsError)
  | symbolicLink (path : String)
  | notRegular (path : String)
  | tooLarge (path : String) (size limit : Nat)
  | content (what details : String)
  | os (error : OsError)
  | noFileName (path : String)
  | headerValue (what value : String)
  | malformedReport
  | malformedSubmission
  | unexpectedProductId (value : String)
  | malformedWaivers
  | malformedSettings
  | emptyPdf (product : String)
  | noTarget
  | status (code : String)
  | network (details : String)
  | environment (name : String)
  /-- A failure with a heading of its own, shown above its cause. -/
  | context (heading : String) (cause : Failure)
  deriving DecidableEq, Repr

namespace Failure

/-- Stands where the message would tell what is wrong with a JSON text. -/
def jsonDetail : String := "<json error>"

/-- Stands where the message would tell what is wrong with a YAML text. -/
def yamlDetail : String := "<yaml error>"

def hint (text : String) : String := "\n\n💡 Hint: " ++ text

def message : Failure → String
  | exchange operation details =>
    "Request to BDBA failed while trying to " ++ operation ++ "\nDetails: " ++ details ++
      hint "Check the --host value, your credentials and the network connection"
  | refused operation code =>
    "BDBA returned HTTP " ++ toString code ++ " while trying to " ++ operation ++
      hint "Check the parameters and the BDBA console"
  | source description details =>
    "Could not load exceptions from " ++ description ++ "\nDetails: " ++ details ++
      hint ("Exceptions must be a JSON object like " ++
        "\x7b\"exceptions\": [\x7b\"cve\": ..., \"lib\": ..., \"vers\": ..., \"hash\": ...\x7d]\x7d")
  | idFile path details =>
    "Could not use scan id file: " ++ path ++ "\nDetails: " ++ details ++
      hint "Run `bdba-gate scan --save-id` first, or pass --scan-id explicitly"
  | unreadable path details =>
    "Failed to read file: " ++ path ++ "\nDetails: " ++ details ++
      hint "Please verify that the file exists and you have read permissions"
  | unwritable path details =>
    "Failed to write to file: " ++ path ++ "\nDetails: " ++ details ++
      hint "Please verify that the directory exists and you have write permissions"
  | configuration reason text => "Invalid configuration: " ++ reason ++ hint text
  | invalid problem => "Validation error: " ++ problem
  | host problem => problem.text
  | metadata what error => "Failed to read " ++ what ++ " metadata: " ++ error.text
  | symbolicLink path =>
    "Security: " ++ path ++
      " is a symbolic link. For security reasons, symbolic links are not allowed."
  | notRegular path => path ++ " is not a regular file"
  | tooLarge path size limit =>
    "Security: " ++ path ++ " is too large (" ++ toString size ++
      " bytes). Maximum allowed size is " ++ toString limit ++ " bytes."
  | content what details => "Failed to read " ++ what ++ ": " ++ details
  | os error => error.text
  | noFileName path => "Scan file " ++ path ++ " has no usable file name"
  | headerValue what value =>
    "Invalid scan " ++ what ++ " '" ++ value ++ "': failed to parse header value"
  | malformedReport => "Failed to parse BDBA report: " ++ jsonDetail
  | malformedSubmission => "Failed to parse BDBA scan response: " ++ jsonDetail
  | unexpectedProductId value => "Unexpected product_id in BDBA scan response: " ++ value
  | malformedWaivers => jsonDetail
  | malformedSettings => yamlDetail
  | emptyPdf product => "BDBA returned an empty PDF report for product " ++ product
  | noTarget => "Either --scan-file or --scan-url is required"
  | status code => "server returned status code " ++ code
  | network details => details
  | environment name => name ++ ": environment variable not found"
  | context heading _ => heading

def causes : Failure → List String
  | context _ cause => cause.message :: cause.causes
  | _ => []

end Failure

end ScanGate
