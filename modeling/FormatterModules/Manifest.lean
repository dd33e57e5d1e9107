import FormatterModules.Coordinate
import FormatterModules.Json.Decoding
import FormatterModules.Toml.Document

namespace FormatterModules

/-- A class a module declares, and the engine entry it is bound to. -/
structure Manifest.Declaration where
  name : String
  entry : String
  methods : List String
  deriving DecidableEq, Repr

/-- The name of a module and the coordinates it depends on. -/
structure Manifest.Header where
  group : String
  name : String
  version : String
  requires : List Coordinate
  deriving DecidableEq, Repr

/-- The contents of a module file. -/
structure Manifest where
  header : Manifest.Header
  classes : List Manifest.Declaration
  deriving DecidableEq, Repr

namespace Manifest.Declaration

def defaultMethods : List String := ["format"]

def fieldNames : List String := ["name", "entry", "methods"]

def isValid (c : Manifest.Declaration) : Bool :=
  !(Text.isBlankText c.name || Text.isBlankText c.entry)

def ofToml? (v : Toml.Value) : Option Manifest.Declaration :=
  match v.fields? fieldNames with
  | some [name, entry, methods] => do
    let name ← Toml.required Toml.Value.text? name
    let entry ← Toml.required Toml.Value.text? entry
    let methods ← Toml.withDefault defaultMethods Toml.Value.texts? methods
    return ⟨name, entry, methods⟩
  | _ => none

end Manifest.Declaration

namespace Manifest.Header

def fieldNames : List String := ["group", "name", "version", "requires"]

def coordinates? (v : Toml.Value) : Option (List Coordinate) :=
  v.texts?.bind fun texts => texts.mapM Coordinate.parse?

def ofToml? (v : Toml.Value) : Option Manifest.Header :=
  match v.fields? fieldNames with
  | some [group, name, version, requires] => do
    let group ← Toml.required Toml.Value.text? group
    let name ← Toml.required Toml.Value.text? name
    let version ← Toml.required Toml.Value.text? version
    let requires ← Toml.withDefault [] coordinates? requires
    return ⟨group, name, version, requires⟩
  | _ => none

end Manifest.Header

namespace Manifest

def fieldNames : List String := ["module", "class"]

def declarations? (v : Toml.Value) : Option (List Manifest.Declaration) :=
  v.items?.bind fun items => items.mapM Manifest.Declaration.ofToml?

def ofToml? (v : Toml.Value) : Option Manifest :=
  match v.fields? fieldNames with
  | some [header, classes] => do
    let header ← Toml.required Manifest.Header.ofToml? header
    let classes ← Toml.withDefault [] declarations? classes
    return ⟨header, classes⟩
  | _ => none

def decode? (content : String) : Option Manifest := (Toml.parse content).bind ofToml?

def isValid (m : Manifest) : Bool := m.classes.all Manifest.Declaration.isValid

def invalidDeclaration : String := "class declarations need a non-empty name and entry"

def parse (origin content : String) : Except Failure Manifest :=
  match decode? content with
  | none => .error (.parse origin Failure.tomlDiagnostic)
  | some m => if m.isValid then .ok m else .error (.parse origin invalidDeclaration)

def coordinate (m : Manifest) : Except Failure Coordinate :=
  Coordinate.parse (Text.join ":" [m.header.group, m.header.name, m.header.version])

end Manifest

end FormatterModules
