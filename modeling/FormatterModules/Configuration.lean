import FormatterModules.Loader.Cache
import FormatterModules.Resolution
import FormatterModules.Preferences.Files
import FormatterModules.EngineState

namespace FormatterModules

/-- The choices for one engine. -/
structure Configuration where
  name : String
  provisioner : Provisioner
  supported : SupportedVersions
  defaults : Coordinate.Template
  shared : SharedNames
  fetcher : Fetcher
  version : Version
  moduleUrl? : Option Url
  dependency? : Option Coordinate
  preferenceFiles : List Path

namespace Configuration

def new (name : String) (provisioner : Provisioner) (supported : SupportedVersions)
    (defaults : Coordinate.Template) (temporaryDirectory : Path) : Configuration where
  name
  provisioner
  supported
  defaults
  shared := .standard
  fetcher := .standard temporaryDirectory
  version := supported.latest
  moduleUrl? := none
  dependency? := none
  preferenceFiles := []

def select (c : Configuration) : Selection → Configuration
  | .version v => { c with version := v, moduleUrl? := none }
  | .moduleUrl url => { c with moduleUrl? := some url }

def chooseVersion (c : Configuration) (requested : String) : Except Failure Configuration :=
  (Selection.resolve (some requested) c.supported).map c.select

def chooseDependency (c : Configuration) (dependency? : Option String) :
    Except Failure Configuration :=
  match dependency? with
  | none => .ok { c with dependency? := none }
  | some text => (Coordinate.parse text).map fun d => { c with dependency? := some d }

def choosePreferenceFiles (c : Configuration) (files : List Path) : Configuration :=
  { c with preferenceFiles := files }

def selection (c : Configuration) : Selection :=
  match c.moduleUrl? with
  | some url => .moduleUrl url
  | none => .version c.version

def artifacts (c : Configuration) (env : Environment) : Except Failure ArtifactSet × Environment :=
  c.selection.artifacts c.dependency? c.defaults c.provisioner c.fetcher env

/-- Resolves the configuration: first the artifacts, then their loader, then the preferences. -/
def resolve (c : Configuration) (cache : LoaderCache) (env : Environment) :
    Except Failure EngineState × LoaderCache × Environment :=
  match c.artifacts env with
  | (.error e, env) => (.error e, cache, env)
  | (.ok artifacts, env) =>
    match cache.obtain artifacts c.shared with
    | (.error e, cache) => (.error e, cache, env)
    | (.ok loader, cache) =>
      match Preferences.readFiles env.files c.preferenceFiles with
      | .error e => (.error e, cache, env)
      | .ok preferences =>
        (.ok ⟨c.version, c.moduleUrl?, artifacts, preferences, loader⟩, cache, env)

def inspectCoordinate (c : Coordinate) : String :=
  Text.record "Coordinate"
    [("group", Text.quoted c.group), ("artifact", Text.quoted c.artifact),
      ("extension", Text.optional (c.extension?.map Text.quoted)),
      ("classifier", Text.optional (c.classifier?.map Text.quoted)),
      ("version", Text.quoted c.version)]

def inspect (c : Configuration) : String :=
  Text.record "EngineConfiguration"
    [("name", Text.quoted c.name), ("supported", Text.quoted c.supported.render),
      ("version", Text.quoted c.version.render),
      ("module_url", Text.optional (c.moduleUrl?.map fun url => Text.quoted url.href)),
      ("dependency", Text.optional (c.dependency?.map inspectCoordinate)),
      ("preferences",
        Text.bracketed (c.preferenceFiles.map fun p => Text.quoted p.text))]

end Configuration

end FormatterModules
