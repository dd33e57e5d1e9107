import FormatterModules.SystemError

namespace FormatterModules

/-- A failure of a configuration, a resolution or a formatting run. -/
inductive Failure
  | io (error : SystemError)
  | configuration (text : String)
  | invalidArgument (text : String)
  | resolution (coordinate details : String)
  | illegalArgument (text : String)
  | parse (subject details : String)
  | formatting (step input diagnostic : String)
  | interrupted
  | toml
  deriving DecidableEq, Repr

namespace Failure

def tomlDiagnostic : String := "TOML parse error at line ?"

def message : Failure → String
  | io error => error.message
  | configuration text => text
  | invalidArgument text => text
  | resolution coordinate details => "Failed to resolve '" ++ coordinate ++ "': " ++ details
  | illegalArgument text => text
  | parse subject details => "Failed to parse " ++ subject ++ ": " ++ details
  | formatting step _ diagnostic =>
    "Step '" ++ step ++ "' failed to format input: " ++ diagnostic
  | interrupted => "Resolution interrupted by host"
  | toml => "TOML parse error: " ++ tomlDiagnostic

def isRetryable : Failure → Bool
  | resolution .. => true
  | interrupted => true
  | _ => false

def kind : Failure → ErrorKind
  | io error => error.kind
  | configuration _ => .invalidInput
  | invalidArgument _ => .invalidInput
  | parse .. => .invalidInput
  | toml => .invalidInput
  | illegalArgument _ => .notFound
  | formatting .. => .invalidData
  | resolution .. => .other
  | interrupted => .interrupted

end Failure

end FormatterModules
