import FormatterModules.Loader
import FormatterModules.Serialization
import FormatterModules.Version.Selection

namespace FormatterModules

namespace Preferences

def sha256 (p : Preferences) : String := sha256OfText p.toJson.render

end Preferences

/-- A resolved configuration. -/
structure EngineState where
  version : Version
  moduleUrl? : Option Url
  artifacts : ArtifactSet
  preferences : Preferences
  loader : ModuleLoader

namespace EngineState

def toJson (s : EngineState) : Json :=
  .object
    [("version", .string s.version.render),
      ("module_url", (s.moduleUrl?.map fun url => .string url.href).getD .null),
      ("artifacts", .array (s.artifacts.identitySet.toList.map ArtifactIdentity.toJson)),
      ("preferences", s.preferences.toJson)]

def fingerprint (s : EngineState) : String := sha256OfText s.toJson.render

instance : BEq EngineState :=
  ⟨fun a b => a.version == b.version && a.moduleUrl?.map Url.href == b.moduleUrl?.map Url.href &&
    a.artifacts == b.artifacts && a.preferences == b.preferences⟩

def significant (s : EngineState) :
    List UInt32 × Option String × List ArtifactIdentity × List (String × String) :=
  (s.version.significant, s.moduleUrl?.map Url.href, s.artifacts.identities, s.preferences.toList)

def lookup (s : EngineState) (name : String) : Except Failure ModuleClass := s.loader.lookup name

def compareVersion (s : EngineState) (other? : Option String) : Except Failure Int :=
  s.version.compareTo other?

def inspect (s : EngineState) : String :=
  Text.record "State"
    [("version", Text.quoted s.version.render),
      ("module_url", Text.optional (s.moduleUrl?.map fun url => Text.quoted url.href)),
      ("artifacts", Text.braced (s.artifacts.identitySet.toList.map ArtifactIdentity.inspect)),
      ("preferences", s.preferences.inspect)]

end EngineState

end FormatterModules
