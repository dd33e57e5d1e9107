import FormatterModules.Coordinate
import FormatterModules.Version

namespace FormatterModules

/-- Patterns of the coordinates an engine is made of. -/
structure Coordinate.Template where
  patterns : List String
  deriving DecidableEq, Repr

namespace Coordinate.Template

def placeholder : String := "\x7bversion\x7d"

def fill (pattern version : String) : String := Text.replace placeholder version pattern

def firstInvalid? (patterns : List String) : Option String :=
  patterns.find? fun pattern => (Coordinate.parse? (fill pattern "0")).isNone

def ofList (patterns : List String) : Except Failure Coordinate.Template :=
  if patterns.isEmpty then
    .error (.configuration "Coordinate template needs at least one pattern")
  else
    match firstInvalid? patterns with
    | some pattern => .error (.configuration ("Invalid coordinate pattern '" ++ pattern ++ "'"))
    | none => .ok ⟨patterns⟩

/-- Reads the filled patterns in order and stops at the first that is no coordinate. -/
def expandAll (version : String) : List String → Except Failure (List Coordinate)
  | [] => .ok []
  | pattern :: rest =>
    match Coordinate.parse (fill pattern version) with
    | .error e => .error e
    | .ok c => (expandAll version rest).map (c :: ·)

def expand (t : Coordinate.Template) (v : Version) : Except Failure (List Coordinate) :=
  expandAll v.render t.patterns

end Coordinate.Template

end FormatterModules
