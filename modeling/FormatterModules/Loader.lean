import FormatterModules.Artifact.Set
import FormatterModules.Engine.Table
import FormatterModules.Manifest

namespace FormatterModules

/-- The number of a loader in its cache. Numbers are not bounded here, although a counter of 64 bits
starts over after `2 ^ 64` loaders. -/
structure LoaderId where
  number : Nat
  deriving DecidableEq, Repr

namespace LoaderId

def render (id : LoaderId) : String := "loader-" ++ String.ofList (Text.decimal id.number)

def inspect (id : LoaderId) : String :=
  "LoaderId(" ++ String.ofList (Text.decimal id.number) ++ ")"

end LoaderId

abbrev SharedNames := OrderedSet String

namespace SharedNames

def engineInterface : String := "fmtmod.FormatterEngine"

def standard : SharedNames := .singleton engineInterface

end SharedNames

/-- What a loader is known by: the identity of its artifacts and its shared names. -/
structure LoaderKey where
  artifacts : OrderedSet ArtifactIdentity
  shared : SharedNames
  deriving DecidableEq

namespace LoaderKey

def of (artifacts : ArtifactSet) (shared : SharedNames) : LoaderKey :=
  ⟨artifacts.identitySet, shared⟩

end LoaderKey

structure ModuleClass where
  name : String
  entry? : Option String
  methods : List String
  /-- The loader that defined the class; a class of the host has none. -/
  definer? : Option LoaderId
  origin : String
  constructor? : Option EngineConstructor

namespace ModuleClass

def ofHost (name : String) : ModuleClass := ⟨name, none, [], none, "host", none⟩

def identity (c : ModuleClass) : Option LoaderId × String := (c.definer?, c.name)

def checkMethod (c : ModuleClass) (method : String) : Except Failure Unit :=
  if c.methods.contains method then .ok ()
  else
    .error (.invalidArgument
      ("Class '" ++ c.name ++ "' from " ++ c.origin ++ " has no method '" ++ method ++ "'"))

def instantiate (c : ModuleClass) (preferences : Preferences) : Except Failure Engine :=
  match c.constructor?, c.entry? with
  | some make, _ =>
    match make preferences with
    | .ok engine => .ok engine
    | .error e =>
      .error (.invalidArgument ("Class '" ++ c.name ++ "' rejected its preferences: " ++ e.message))
  | none, some entry =>
    .error (.invalidArgument
      ("Class '" ++ c.name ++ "' binds to entry '" ++ entry ++ "', which the host does not provide"))
  | none, none =>
    .error (.invalidArgument ("Class '" ++ c.name ++ "' cannot be instantiated"))

def inspect (c : ModuleClass) : String :=
  Text.record "LoadedClass"
    [("name", Text.quoted c.name), ("entry", Text.optional (c.entry?.map Text.quoted)),
      ("defined_by", Text.optional (c.definer?.map LoaderId.inspect)),
      ("origin", Text.quoted c.origin)]

end ModuleClass

structure ModuleLoader where
  id : LoaderId
  key : LoaderKey
  origins : List String
  classes : OrderedMap String ModuleClass

namespace ModuleLoader

/-- Reads the manifests of artifacts in order and stops at the first that is malformed. -/
def readManifests : List Artifact → Except Failure (List (Artifact × Manifest))
  | [] => .ok []
  | a :: rest =>
    match Manifest.parse a.location.text a.content with
    | .error e => .error e
    | .ok m => (readManifests rest).map ((a, m) :: ·)

def classOf (id : LoaderId) (engines : EngineTable) (origin : String) (d : Manifest.Declaration) :
    ModuleClass :=
  ⟨d.name, some d.entry, d.methods, some id, origin, engines.find? d.entry⟩

def declared (id : LoaderId) (engines : EngineTable) (modules : List (Artifact × Manifest)) :
    List ModuleClass :=
  modules.flatMap fun am => am.2.classes.map (classOf id engines am.1.identity.fileName)

def addClass (shared : SharedNames) (classes : OrderedMap String ModuleClass) (c : ModuleClass) :
    OrderedMap String ModuleClass :=
  if shared.contains c.name then classes else classes.insertIfNew c.name c

def ofArtifacts (id : LoaderId) (engines : EngineTable) (artifacts : ArtifactSet)
    (shared : SharedNames) : Except Failure ModuleLoader :=
  match readManifests artifacts.artifacts with
  | .error e => .error e
  | .ok modules =>
    .ok
      { id
        key := .of artifacts shared
        origins := artifacts.identities.map ArtifactIdentity.fileName
        classes := (declared id engines modules).foldl (addClass shared) .empty }

def classNames (l : ModuleLoader) : List String := l.classes.keys

def find? (l : ModuleLoader) (name : String) : Option ModuleClass :=
  if l.key.shared.contains name then some (.ofHost name) else l.classes.get? name

def lookup (l : ModuleLoader) (name : String) : Except Failure ModuleClass :=
  match l.find? name with
  | some c => .ok c
  | none =>
    .error (.invalidArgument
      ("Class '" ++ name ++ "' not found in module(s): " ++ Text.join ", " l.origins))

def inspect (l : ModuleLoader) : String :=
  Text.record "IsolatedLoader"
    [("id", l.id.inspect), ("origins", Text.bracketed (l.origins.map Text.quoted)),
      ("classes", Text.bracketed (l.classNames.map Text.quoted))]

end ModuleLoader

end FormatterModules
