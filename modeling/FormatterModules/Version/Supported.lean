import FormatterModules.Version

namespace FormatterModules

def Version.insertSorted (v : Version) : List Version → List Version
  | [] => [v]
  | w :: ws =>
    match compare v w with
    | .lt => v :: w :: ws
    | .eq => w :: ws
    | .gt => w :: insertSorted v ws

theorem Version.insertSorted_ne_nil (v : Version) (ws : List Version) :
    Version.insertSorted v ws ≠ [] := by
  cases ws with
  | nil => simp [insertSorted]
  | cons w ws => unfold insertSorted; split <;> simp

/-- The supported versions in ascending order, each in the spelling it was first listed in. -/
structure SupportedVersions where
  versions : List Version
  versions_ne_nil : versions ≠ []
  deriving Repr

namespace SupportedVersions

/-- Reads the listed versions in order and stops at the first that is malformed. -/
def readAll : List String → Except Failure (List Version)
  | [] => .ok []
  | s :: rest =>
    match Version.parse? s with
    | none => .error (.configuration ("Supported version '" ++ s ++ "' is malformed"))
    | some v => (readAll rest).map (v :: ·)

def sortDistinct (vs : List Version) : List Version :=
  vs.foldl (fun sorted v => v.insertSorted sorted) []

theorem foldl_insertSorted_ne_nil (vs sorted : List Version) (h : sorted ≠ []) :
    vs.foldl (fun sorted v => v.insertSorted sorted) sorted ≠ [] := by
  induction vs generalizing sorted with
  | nil => exact h
  | cons v vs ih => exact ih _ (Version.insertSorted_ne_nil v sorted)

def ofList (raw : List String) : Except Failure SupportedVersions :=
  match readAll raw with
  | .error e => .error e
  | .ok [] => .error (.configuration "At least one supported version is required")
  | .ok (v :: vs) =>
    .ok ⟨sortDistinct (v :: vs), foldl_insertSorted_ne_nil vs _ (Version.insertSorted_ne_nil v [])⟩

def latest (s : SupportedVersions) : Version := s.versions.getLast s.versions_ne_nil

def find? (s : SupportedVersions) (v : Version) : Option Version :=
  s.versions.find? fun w => compare w v == .eq

def render (s : SupportedVersions) : String := Text.join ", " (s.versions.map Version.render)

def size (s : SupportedVersions) : Nat := s.versions.length

end SupportedVersions

end FormatterModules
