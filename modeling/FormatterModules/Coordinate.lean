import FormatterModules.Failure
import FormatterModules.Text.Alphanumeric
import FormatterModules.Text.Blank
import FormatterModules.Text.Lines

namespace FormatterModules

namespace Coordinate

def isSegmentChar (c : Char) : Bool := Text.isAlphanumeric c || c == '-' || c == '_' || c == '.'

/-- A segment is a name that can stand in a path: not empty, none of the two dotted directory names,
and made of letters, digits, hyphens, underscores and dots. -/
def isSegment (s : String) : Bool :=
  s != "" && s != "." && s != ".." && s.toList.all isSegmentChar

end Coordinate

/-- A coordinate. A classifier stands only behind an extension. -/
structure Coordinate where
  group : String
  artifact : String
  extension? : Option String
  classifier? : Option String
  version : String
  group_valid : Coordinate.isSegment group = true
  artifact_valid : Coordinate.isSegment artifact = true
  extension_valid : ∀ e ∈ extension?, Coordinate.isSegment e = true
  classifier_valid : ∀ c ∈ classifier?, Coordinate.isSegment c = true
  version_valid : Coordinate.isSegment version = true
  extension_of_classifier : classifier?.isSome = true → extension?.isSome = true
  deriving Repr

namespace Coordinate

instance : DecidableEq Coordinate := fun a b =>
  if h : a.group = b.group ∧ a.artifact = b.artifact ∧ a.extension? = b.extension? ∧
      a.classifier? = b.classifier? ∧ a.version = b.version then
    isTrue (by cases a; cases b; simp_all)
  else isFalse fun e => h (by simp [e])

instance : Ord Coordinate :=
  ⟨compareLex (compareOn group) (compareLex (compareOn artifact)
    (compareLex (compareOn extension?) (compareLex (compareOn classifier?) (compareOn version))))⟩

instance : Std.TransOrd Coordinate :=
  inferInstanceAs (Std.TransCmp (compareLex (compareOn group) (compareLex (compareOn artifact)
    (compareLex (compareOn extension?)
      (compareLex (compareOn classifier?) (compareOn version))))))

/-- The coordinate of the given segments, if their number fits and each is valid. -/
def ofSegments? : List String → Option Coordinate
  | [group, artifact, version] =>
    if h : isSegment group ∧ isSegment artifact ∧ isSegment version then
      some ⟨group, artifact, none, none, version, h.1, h.2.1, by simp, by simp, h.2.2, by simp⟩
    else none
  | [group, artifact, extension, version] =>
    if h : isSegment group ∧ isSegment artifact ∧ isSegment extension ∧ isSegment version then
      some ⟨group, artifact, some extension, none, version, h.1, h.2.1,
        by simpa using h.2.2.1, by simp, h.2.2.2, by simp⟩
    else none
  | [group, artifact, extension, classifier, version] =>
    if h : isSegment group ∧ isSegment artifact ∧ isSegment extension ∧ isSegment classifier ∧
        isSegment version then
      some ⟨group, artifact, some extension, some classifier, version, h.1, h.2.1,
        by simpa using h.2.2.1, by simpa using h.2.2.2.1, h.2.2.2.2, by simp⟩
    else none
  | _ => none

def parse? (s : String) : Option Coordinate := ofSegments? (Text.pieces ':' (Text.trimmed s))

def malformedText (s : String) : String :=
  "Invalid dependency coordinate '" ++ s ++
    "': expected 'group:artifact[:extension[:classifier]]:version'"

def parse (s : String) : Except Failure Coordinate :=
  match parse? s with
  | some c => .ok c
  | none => .error (.invalidArgument (malformedText s))

def segments (c : Coordinate) : List String :=
  [c.group, c.artifact] ++ c.extension?.toList ++ c.classifier?.toList ++ [c.version]

def render (c : Coordinate) : String := Text.join ":" c.segments

instance : ToString Coordinate := ⟨render⟩

def defaultExtension : String := "toml"

def extension (c : Coordinate) : String := c.extension?.getD defaultExtension

def fileName (c : Coordinate) : String :=
  match c.classifier? with
  | some classifier =>
    c.artifact ++ "-" ++ c.version ++ "-" ++ classifier ++ "." ++ c.extension
  | none => c.artifact ++ "-" ++ c.version ++ "." ++ c.extension

end Coordinate

end FormatterModules
