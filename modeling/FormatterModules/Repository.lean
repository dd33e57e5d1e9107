import FormatterModules.Artifact
import FormatterModules.FileTree
import FormatterModules.Manifest

namespace FormatterModules

/-- A repository: the directory it lies in. -/
structure Repository where
  root : Path
  deriving DecidableEq, Repr

namespace Repository

def pathOf (r : Repository) (c : Coordinate) : Path :=
  (Text.pieces '.' c.group ++ [c.artifact, c.version, c.fileName]).foldl Path.joinText r.root

def missing (r : Repository) (c : Coordinate) : Failure :=
  .resolution c.render ("not found in repository " ++ r.root.text)

def manifest (r : Repository) (files : FileTree) (c : Coordinate) : Except Failure Manifest :=
  let path := r.pathOf c
  if files.isFile path then
    match files.readText path with
    | .error e => .error (.resolution c.render e.message)
    | .ok content => Manifest.parse path.text content
  else .error (r.missing c)

def requiredBy (content : ByteArray) : List Coordinate :=
  match (Bytes.decodeUtf8? content).bind Manifest.decode? with
  | some m => m.header.requires
  | none => []

def mentioned (files : FileTree) : List Coordinate := files.contents.flatMap requiredBy

def others (c : Coordinate) (cs : List Coordinate) : List Coordinate := cs.filter (· ≠ c)

theorem length_others_lt {c : Coordinate} {cs : List Coordinate} (h : c ∈ cs) :
    (others c cs).length < cs.length := by
  rw [others, List.length_filter_lt_length_iff_exists]
  exact ⟨c, h, by simp⟩

/-- Visits the pending coordinates in order, each with what it requires before the next, and collects
the places of their modules. A coordinate that is no longer among the remaining ones was visited
before. -/
def walk (r : Repository) (files : FileTree) (remaining pending : List Coordinate)
    (found : OrderedSet Path) : Except Failure (OrderedSet Path) :=
  match pending with
  | [] => .ok found
  | c :: pending =>
    if h : c ∈ remaining then
      match r.manifest files c with
      | .error e => .error e
      | .ok m =>
        have := length_others_lt h
        walk r files (others c remaining) (m.header.requires ++ pending)
          (found.insert (r.pathOf c))
    else walk r files remaining pending found
termination_by (remaining.length, pending.length)

def closure (r : Repository) (files : FileTree) (c : Coordinate) :
    Except Failure (OrderedSet Path) :=
  r.walk files (c :: mentioned files) [c] .empty

end Repository

end FormatterModules
