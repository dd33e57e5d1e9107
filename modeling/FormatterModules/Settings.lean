import FormatterModules.JavaFormatter

namespace FormatterModules

/-- What the engine is resolved from, and its preference files. -/
structure StepSettings where
  version? : Option String
  dependencies? : Option String
  preferences : List Path
  deriving DecidableEq, Repr

/-- Where the repository lies. -/
structure RepositorySettings where
  path : Path
  deriving DecidableEq, Repr

/-- How modules are downloaded. -/
structure FetchSettings where
  cacheDirectory? : Option Path
  timeout : Nat
  deriving DecidableEq, Repr

/-- The settings, and the directory that relative paths start in. -/
structure Settings where
  step : StepSettings
  repository : RepositorySettings
  fetch : FetchSettings
  baseDirectory : Path
  deriving DecidableEq, Repr

namespace StepSettings

def fieldNames : List String := ["version", "dependencies", "preferences"]

def standard : StepSettings := ⟨none, none, []⟩

def ofToml? (v : Toml.Value) : Option StepSettings :=
  match v.fields? fieldNames with
  | some [version, dependencies, preferences] => do
    let version? ← Toml.optional Toml.Value.text? version
    let dependencies? ← Toml.optional Toml.Value.text? dependencies
    let preferences ← Toml.withDefault [] Toml.Value.texts? preferences
    return ⟨version?, dependencies?, preferences.map Path.mk⟩
  | _ => none

end StepSettings

namespace RepositorySettings

def fieldNames : List String := ["path"]

def standard : RepositorySettings := ⟨⟨"repository"⟩⟩

def ofToml? (v : Toml.Value) : Option RepositorySettings :=
  match v.fields? fieldNames with
  | some [path] =>
    Toml.withDefault standard (fun v => v.text?.map fun text => ⟨⟨text⟩⟩) path
  | _ => none

end RepositorySettings

namespace FetchSettings

def fieldNames : List String := ["cache_dir", "timeout_secs"]

def standard : FetchSettings := ⟨none, Fetcher.defaultTimeout⟩

def ofToml? (v : Toml.Value) : Option FetchSettings :=
  match v.fields? fieldNames with
  | some [cacheDirectory, timeout] => do
    let cacheDirectory? ← Toml.optional Toml.Value.text? cacheDirectory
    let timeout ← Toml.withDefault standard.timeout Toml.Value.natural? timeout
    return ⟨cacheDirectory?.map Path.mk, timeout⟩
  | _ => none

end FetchSettings

namespace Settings

def fieldNames : List String := ["step", "repository", "fetch"]

def ofToml? (baseDirectory : Path) (v : Toml.Value) : Option Settings :=
  match v.fields? fieldNames with
  | some [step, repository, fetch] => do
    let step ← Toml.withDefault .standard StepSettings.ofToml? step
    let repository ← Toml.withDefault .standard RepositorySettings.ofToml? repository
    let fetch ← Toml.withDefault .standard FetchSettings.ofToml? fetch
    return ⟨step, repository, fetch, baseDirectory⟩
  | _ => none

def parse (content : String) (baseDirectory : Path) : Except Failure Settings :=
  match (Toml.parse content).bind (ofToml? baseDirectory) with
  | none => .error .toml
  | some settings =>
    if settings.fetch.timeout = 0 then
      .error (.configuration "fetch.timeout_secs must be greater than 0")
    else .ok settings

def load (files : FileTree) (path : Path) : Except Failure Settings :=
  if files.isFile path then
    match files.readText path with
    | .error e => .error (.io e)
    | .ok content => parse content (path.parent?.getD ⟨""⟩)
  else .error (.configuration ("Settings file not found: " ++ path.text))

def locate (s : Settings) (path : Path) : Path :=
  if path.isAbsolute then path else s.baseDirectory.join path

def repositoryRoot (s : Settings) : Path := s.locate s.repository.path

def preferenceFiles (s : Settings) : List Path := s.step.preferences.map s.locate

def provisioner (s : Settings) (flag? : Option StopFlag) : Provisioner :=
  .ofRepository ⟨s.repositoryRoot⟩ flag?

def fetcher (s : Settings) (flag? : Option StopFlag) (temporaryDirectory : Path) : Fetcher :=
  ⟨match s.fetch.cacheDirectory? with
    | some path => s.locate path
    | none => Fetcher.defaultCacheDirectory temporaryDirectory,
    flag?⟩

def applyVersion (s : Settings) (c : Configuration) : Except Failure Configuration :=
  match s.step.version? with
  | some version => c.chooseVersion version
  | none => .ok c

def apply (s : Settings) (c : Configuration) (flag? : Option StopFlag) (temporaryDirectory : Path) :
    Except Failure Configuration :=
  match s.applyVersion c with
  | .error e => .error e
  | .ok c =>
    (c.chooseDependency s.step.dependencies?).map fun c =>
      { c.choosePreferenceFiles s.preferenceFiles with
        fetcher := s.fetcher flag? temporaryDirectory }

def javaStep (s : Settings) (flag? : Option StopFlag) (temporaryDirectory : Path) :
    Except Failure Step :=
  match JavaFormatter.configuration (s.provisioner flag?) temporaryDirectory with
  | .error e => .error e
  | .ok c => (s.apply c flag? temporaryDirectory).map JavaFormatter.step

end Settings

def readJavaStep (env : Environment) (path : Path) : Except Failure Step :=
  match Settings.load env.files path with
  | .error e => .error e
  | .ok settings => settings.javaStep none env.temporaryDirectory

end FormatterModules
