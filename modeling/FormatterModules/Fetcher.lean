import FormatterModules.Artifact
import FormatterModules.Environment
import FormatterModules.Failure
import FormatterModules.Version.Selection

namespace FormatterModules

/-- Where downloads are kept, and the flag that stops them. -/
structure Fetcher where
  cacheDirectory : Path
  flag? : Option StopFlag

namespace Fetcher

def defaultCacheDirectory (temporaryDirectory : Path) : Path :=
  (temporaryDirectory.joinText "fmtmod").joinText "modules"

/-- How many seconds a download may take unless something else is said. -/
def defaultTimeout : Nat := 30

def standard (temporaryDirectory : Path) : Fetcher := ⟨defaultCacheDirectory temporaryDirectory, none⟩

def fileNotFound (path : String) : Failure :=
  .invalidArgument ("Module file not found: " ++ path)

def locateFile (files : FileTree) (url : Url) : Except Failure Path :=
  match url.filePathBytes? with
  | none => .error (.invalidArgument ("Module URL '" ++ url.href ++ "' is not a local path"))
  | some bytes =>
    match Bytes.decodeUtf8? ⟨bytes.toArray⟩ with
    | none => .error (fileNotFound (Bytes.decodeLossy ⟨bytes.toArray⟩))
    | some text => if files.isFile ⟨text⟩ then .ok ⟨text⟩ else .error (fileNotFound text)

def defaultFileName : String := "module.toml"

def digestDigits : Nat := 16

def digest (url : Url) : String :=
  String.ofList ((sha256OfText url.href).toList.take digestDigits)

def fileName (url : Url) : String := digest url ++ "-" ++ url.lastSegment?.getD defaultFileName

def target (f : Fetcher) (url : Url) : Path := f.cacheDirectory.joinText (fileName url)

def bodyOf (url : Url) : Except String Response → Except Failure String
  | .error details => .error (.resolution url.href details)
  | .ok response =>
    let status := Network.renderStatus response.status
    if Network.isClientError response.status then
      .error (.invalidArgument ("Module URL '" ++ url.href ++ "' was rejected with HTTP " ++ status))
    else if Network.isSuccess response.status then
      match response.body with
      | .ok bytes => .ok (Bytes.decodeLossy bytes)
      | .error details => .error (.resolution url.href details)
    else .error (.resolution url.href ("HTTP " ++ status))

/-- Writes a download: first the directories on the way, then a new file beside the target, which then
takes the place of the target. If this fails, directories stay, but no new file does. -/
def store (f : Fetcher) (files : FileTree) (target : Path) (body : String) :
    Except SystemError Unit × FileTree :=
  match files.ensureDirectories f.cacheDirectory with
  | (.error e, made) => (.error e, made)
  | (.ok (), made) =>
    match made.writeTemporary f.cacheDirectory (Bytes.ofText body) 0 FileTree.temporaryLimit with
    | .error e => (.error e, made)
    | .ok (place, files) =>
      match files.move place target with
      | .error e => (.error e, files.erase place)
      | .ok files => (.ok (), files)

def notStored (url : Url) (e : SystemError) : Failure :=
  .resolution url.href ("cache write failed: " ++ e.message)

def download (f : Fetcher) (url : Url) (env : Environment) :
    Except Failure Path × Environment :=
  if env.isStopped f.flag? then (.error .interrupted, env)
  else
    let (answer, network) := env.network.get url
    let env := { env with network }
    match bodyOf url answer with
    | .error e => (.error e, env)
    | .ok body =>
      match f.store env.files (f.target url) body with
      | (.error e, files) => (.error (notStored url e), { env with files })
      | (.ok (), files) => (.ok (f.target url), { env with files })

def fetch (f : Fetcher) (url : Url) (env : Environment) :
    Except Failure Path × Environment :=
  if url.scheme == "file" then (locateFile env.files url, env)
  else if Network.isWeb url then f.download url env
  else (.error (Selection.unsupportedScheme url.href url.scheme), env)

end Fetcher

end FormatterModules
