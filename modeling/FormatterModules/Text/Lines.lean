namespace FormatterModules.Text

/-- What ends a line. -/
inductive Terminator
  | crlf
  | lf
  | none
  deriving DecidableEq, Repr

namespace Terminator

def chars : Terminator → List Char
  | crlf => ['\r', '\n']
  | lf => ['\n']
  | none => []

end Terminator

/-- A line: its content and what ends it. -/
structure Line where
  content : List Char
  terminator : Terminator
  deriving DecidableEq, Repr

namespace Line

def chars (line : Line) : List Char := line.content ++ line.terminator.chars

end Line

def consContent (c : Char) : List Line → List Line
  | [] => [⟨[c], .none⟩]
  | line :: rest => ⟨c :: line.content, line.terminator⟩ :: rest

def lines : List Char → List Line
  | [] => []
  | '\n' :: rest => ⟨[], .lf⟩ :: lines rest
  | '\r' :: '\n' :: rest => ⟨[], .crlf⟩ :: lines rest
  | c :: rest => consContent c (lines rest)

def unlines (ls : List Line) : List Char := ls.flatMap Line.chars

def mapContents (f : List Char → List Char) (text : List Char) : List Char :=
  (lines text).flatMap fun line => f line.content ++ line.terminator.chars

def splitOn (separator : Char) (s : List Char) : List (List Char) := s.splitOn separator

def pieces (separator : Char) (s : String) : List String :=
  (splitOn separator s.toList).map String.ofList

def join (separator : String) (parts : List String) : String := separator.intercalate parts

def replaceAll (pattern replacement : List Char) (s : List Char) : List Char :=
  match s with
  | [] => []
  | c :: rest =>
    if pattern.isPrefixOf (c :: rest) && !pattern.isEmpty then
      replacement ++ replaceAll pattern replacement ((c :: rest).drop pattern.length)
    else c :: replaceAll pattern replacement rest
termination_by s.length
decreasing_by
  all_goals simp_wf
  rename_i h
  have : pattern ≠ [] := by
    intro e
    simp [e] at h
  have := List.length_pos_iff.2 this
  omega

def replace (pattern replacement s : String) : String :=
  String.ofList (replaceAll pattern.toList replacement.toList s.toList)

end FormatterModules.Text
