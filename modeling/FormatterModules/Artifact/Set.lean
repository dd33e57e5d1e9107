import FormatterModules.Artifact
import FormatterModules.FileTree

namespace FormatterModules

/-- Artifacts in ascending order of their identities, each identity once. -/
structure ArtifactSet where
  artifacts : List Artifact
  ascending : Ascending artifacts
  deriving DecidableEq, Repr

namespace ArtifactSet

def empty : ArtifactSet := ⟨[], List.Pairwise.nil⟩

def insert (s : ArtifactSet) (a : Artifact) : ArtifactSet :=
  ⟨Ascending.insert a s.artifacts, Ascending.insert_ascending s.ascending⟩

def ofList (artifacts : List Artifact) : ArtifactSet := artifacts.foldl insert empty

def unreadable (location : Path) (e : SystemError) : Failure :=
  .invalidArgument ("Cannot read artifact " ++ location.text ++ ": " ++ e.message)

def readArtifact (files : FileTree) (location : Path) : Except Failure Artifact :=
  match files.readText location with
  | .error e => .error (unreadable location e)
  | .ok content => .ok (.ofContent location content)

/-- Reads the artifacts at the places in order and stops at the first that cannot be read. -/
def readArtifacts (files : FileTree) : List Path → Except Failure (List Artifact)
  | [] => .ok []
  | location :: rest =>
    match readArtifact files location with
    | .error e => .error e
    | .ok a => (readArtifacts files rest).map (a :: ·)

def ofLocations (files : FileTree) (locations : OrderedSet Path) :
    Except Failure ArtifactSet :=
  (readArtifacts files locations.toList).map ofList

def identities (s : ArtifactSet) : List ArtifactIdentity := s.artifacts.map Artifact.identity

def identitySet (s : ArtifactSet) : OrderedSet ArtifactIdentity := .ofList s.identities

def locations (s : ArtifactSet) : List Path := s.artifacts.map Artifact.location

def size (s : ArtifactSet) : Nat := s.artifacts.length

def isEmpty (s : ArtifactSet) : Bool := s.artifacts.isEmpty

instance : BEq ArtifactSet := ⟨fun s t => s.identities == t.identities⟩

end ArtifactSet

end FormatterModules
