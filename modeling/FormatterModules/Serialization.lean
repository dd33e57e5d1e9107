import FormatterModules.Artifact
import FormatterModules.Json.Decoding
import FormatterModules.Manifest
import FormatterModules.Preferences
import FormatterModules.Version

namespace FormatterModules

open Json (DecodeError Slot)

namespace Version

def toJson (v : Version) : Json := .string v.render

def ofJson (j : Json) : Except DecodeError Version :=
  match j.toText with
  | .error e => .error e
  | .ok s => (ofArgument s).mapError fun e => .malformed e.message

end Version

namespace Coordinate

def toJson (c : Coordinate) : Json := .string c.render

def ofJson (j : Json) : Except DecodeError Coordinate :=
  match j.toText with
  | .error e => .error e
  | .ok s => (parse s).mapError fun e => .malformed e.message

end Coordinate

namespace ArtifactIdentity

def toJson (d : ArtifactIdentity) : Json :=
  .object [("file_name", .string d.fileName), ("sha256", .string d.sha256)]

def arrayForm : String := Json.recordLength "ArtifactDigest" 2

def readMember (fields : Slot String × Slot String) (member : String × Json) :
    Except DecodeError (Slot String × Slot String) :=
  match member.1 with
  | "file_name" => (Json.fill "file_name" Json.toText fields.1 member.2).map (·, fields.2)
  | "sha256" => (Json.fill "sha256" Json.toText fields.2 member.2).map (fields.1, ·)
  | _ => .ok fields

def ofJson : Json → Except DecodeError ArtifactIdentity
  | .object members => do
    let fields ← members.foldlM readMember (none, none)
    let fileName ← Json.require "file_name" fields.1
    let sha256 ← Json.require "sha256" fields.2
    return ⟨fileName, sha256⟩
  | .array items => do
    let (fileName, rest) ← Json.next Json.toText (.error (.length 0 arrayForm)) items
    let (sha256, rest) ← Json.next Json.toText (.error (.length 1 arrayForm)) rest
    Json.finish items.length rest
    return ⟨fileName, sha256⟩
  | j => .error (.type j "struct ArtifactDigest")

end ArtifactIdentity

namespace Preferences

def toJson (p : Preferences) : Json :=
  .object [("entries", .object (p.toList.map fun e => (e.1, .string e.2)))]

/-- Reads members whose values are strings, on top of those read so far. -/
def readEntries (entries : OrderedMap String String) :
    List (String × Json) → Except DecodeError (OrderedMap String String)
  | [] => .ok entries
  | (key, j) :: rest =>
    match j.toText with
    | .error e => .error e
    | .ok value => readEntries (entries.insert key value) rest

def entriesOfJson : Json → Except DecodeError (OrderedMap String String)
  | .object members => readEntries .empty members
  | j => .error (.type j "a map")

def readMember (field : Slot (OrderedMap String String)) (member : String × Json) :
    Except DecodeError (Slot (OrderedMap String String)) :=
  match member.1 with
  | "entries" => Json.fill "entries" entriesOfJson field member.2
  | _ => .ok field

def ofJson : Json → Except DecodeError Preferences
  | .object members => do
    let field ← members.foldlM readMember none
    let entries ← Json.require "entries" field
    return ⟨entries⟩
  | .array items => do
    let (entries, rest) ←
      Json.next entriesOfJson (.error (.length 0 (Json.recordLength "Preferences" 1))) items
    Json.finish items.length rest
    return ⟨entries⟩
  | j => .error (.type j "struct Preferences")

end Preferences

namespace Manifest.Declaration

def toJson (c : Manifest.Declaration) : Json :=
  .object [("name", .string c.name), ("entry", .string c.entry),
    ("methods", .array (c.methods.map .string))]

def arrayForm : String := Json.recordLength "ClassDeclaration" 3

/-- The fields of a declaration while it is read. -/
structure Fields where
  name : Slot String := none
  entry : Slot String := none
  methods : Slot (List String) := none

def readMember (fields : Fields) (member : String × Json) : Except DecodeError Fields :=
  match member.1 with
  | "name" => (Json.fill "name" Json.toText fields.name member.2).map ({ fields with name := · })
  | "entry" =>
    (Json.fill "entry" Json.toText fields.entry member.2).map ({ fields with entry := · })
  | "methods" =>
    (Json.fill "methods" (Json.toList Json.toText) fields.methods member.2).map
      ({ fields with methods := · })
  | other => .error (.unknownField other fieldNames)

/-- Reads a declaration. One that names no methods has the usual ones. -/
def ofJson : Json → Except DecodeError Manifest.Declaration
  | .object members => do
    let fields ← members.foldlM readMember {}
    let name ← Json.require "name" fields.name
    let entry ← Json.require "entry" fields.entry
    return ⟨name, entry, fields.methods.getD defaultMethods⟩
  | .array items => do
    let (name, rest) ← Json.next Json.toText (.error (.length 0 arrayForm)) items
    let (entry, rest) ← Json.next Json.toText (.error (.length 1 arrayForm)) rest
    let (methods, rest) ← Json.next (Json.toList Json.toText) (.ok defaultMethods) rest
    Json.finish items.length rest
    return ⟨name, entry, methods⟩
  | j => .error (.type j "struct ClassDeclaration")

end Manifest.Declaration

namespace Manifest.Header

def toJson (h : Manifest.Header) : Json :=
  .object [("group", .string h.group), ("name", .string h.name), ("version", .string h.version),
    ("requires", .array (h.requires.map Coordinate.toJson))]

def arrayForm : String := Json.recordLength "ModuleHeader" 4

/-- The fields of a header while it is read. -/
structure Fields where
  group : Slot String := none
  name : Slot String := none
  version : Slot String := none
  requires : Slot (List Coordinate) := none

def readMember (fields : Fields) (member : String × Json) : Except DecodeError Fields :=
  match member.1 with
  | "group" =>
    (Json.fill "group" Json.toText fields.group member.2).map ({ fields with group := · })
  | "name" => (Json.fill "name" Json.toText fields.name member.2).map ({ fields with name := · })
  | "version" =>
    (Json.fill "version" Json.toText fields.version member.2).map ({ fields with version := · })
  | "requires" =>
    (Json.fill "requires" (Json.toList Coordinate.ofJson) fields.requires member.2).map
      ({ fields with requires := · })
  | other => .error (.unknownField other fieldNames)

def ofJson : Json → Except DecodeError Manifest.Header
  | .object members => do
    let fields ← members.foldlM readMember {}
    let group ← Json.require "group" fields.group
    let name ← Json.require "name" fields.name
    let version ← Json.require "version" fields.version
    return ⟨group, name, version, fields.requires.getD []⟩
  | .array items => do
    let (group, rest) ← Json.next Json.toText (.error (.length 0 arrayForm)) items
    let (name, rest) ← Json.next Json.toText (.error (.length 1 arrayForm)) rest
    let (version, rest) ← Json.next Json.toText (.error (.length 2 arrayForm)) rest
    let (requires, rest) ← Json.next (Json.toList Coordinate.ofJson) (.ok []) rest
    Json.finish items.length rest
    return ⟨group, name, version, requires⟩
  | j => .error (.type j "struct ModuleHeader")

end Manifest.Header

namespace Manifest

def toJson (m : Manifest) : Json :=
  .object [("module", m.header.toJson), ("class", .array (m.classes.map Manifest.Declaration.toJson))]

def arrayForm : String := Json.recordLength "ModuleManifest" 2

/-- The fields of a manifest while it is read. -/
structure Fields where
  header : Slot Manifest.Header := none
  classes : Slot (List Manifest.Declaration) := none

def readMember (fields : Fields) (member : String × Json) : Except DecodeError Fields :=
  match member.1 with
  | "module" =>
    (Json.fill "module" Manifest.Header.ofJson fields.header member.2).map
      ({ fields with header := · })
  | "class" =>
    (Json.fill "class" (Json.toList Manifest.Declaration.ofJson) fields.classes member.2).map
      ({ fields with classes := · })
  | other => .error (.unknownField other fieldNames)

def ofJson : Json → Except DecodeError Manifest
  | .object members => do
    let fields ← members.foldlM readMember {}
    let header ← Json.require "module" fields.header
    return ⟨header, fields.classes.getD []⟩
  | .array items => do
    let (header, rest) ← Json.next Manifest.Header.ofJson (.error (.length 0 arrayForm)) items
    let (classes, rest) ← Json.next (Json.toList Manifest.Declaration.ofJson) (.ok []) rest
    Json.finish items.length rest
    return ⟨header, classes⟩
  | j => .error (.type j "struct ModuleManifest")

end Manifest

end FormatterModules
