import FormatterModules.Text.Blank
import FormatterModules.Url.Reading
import FormatterModules.Version.Supported

namespace FormatterModules

/-- What an engine is resolved from. -/
inductive Selection
  | version (v : Version)
  | moduleUrl (url : Url)

namespace Selection

def moduleSchemes : List String := ["file", "http", "https"]

def unsupportedScheme (url scheme : String) : Failure :=
  .invalidArgument ("Module URL '" ++ url ++ "' uses unsupported protocol '" ++ scheme ++ "'")

def readModuleUrl (raw : String) : Except Failure Url :=
  match Url.parse raw with
  | .error e =>
    .error (.invalidArgument
      ("'" ++ raw ++ "' is neither a supported version nor a valid module URL: " ++ e.message))
  | .ok url =>
    if moduleSchemes.contains url.scheme then .ok url
    else .error (unsupportedScheme raw url.scheme)

def unsupportedVersion (raw : String) (supported : SupportedVersions) : Failure :=
  .invalidArgument ("Version '" ++ raw ++ "' is not supported. Supported versions: " ++
    supported.render)

def ofTrimmed (raw : String) (supported : SupportedVersions) : Except Failure Selection :=
  match Version.parse? raw with
  | some v =>
    match supported.find? v with
    | some found => .ok (.version found)
    | none => .error (unsupportedVersion raw supported)
  | none => (readModuleUrl raw).map .moduleUrl

def resolve (requested? : Option String) (supported : SupportedVersions) :
    Except Failure Selection :=
  match requested? with
  | none => .ok (.version supported.latest)
  | some raw => ofTrimmed (Text.trimmed raw) supported

end Selection

namespace Version

def sign : Ordering → Int
  | .lt => -1
  | .eq => 0
  | .gt => 1

def compareTo (v : Version) (other? : Option String) : Except Failure Int :=
  match other? with
  | none => .error (.invalidArgument "Cannot compare version to nothing")
  | some other =>
    match parse? (Text.trimmed other) with
    | none => .error (.invalidArgument ("Malformed version '" ++ other ++ "'"))
    | some w => .ok (sign (compare v w))

end Version

end FormatterModules
