import FormatterModules.Engine
import FormatterModules.Text.Blank
import FormatterModules.Text.Lines
import FormatterModules.Text.Number

namespace FormatterModules.Engine

/-- The groups of names in the order their imports stand in. A group is a name and all names below
it. -/
structure ImportGroups where
  names : List (List Char)
  deriving DecidableEq, Repr

namespace ImportGroups

def defaultOrder : String := "java,javax,org,com"

def ofPreferences (p : Preferences) : ImportGroups :=
  let raw := (p.get? "import.order").getD defaultOrder
  ⟨((Text.splitOn ',' raw.toList).map Text.trim).filter fun name => !name.isEmpty⟩

def covers (group name : List Char) : Bool := name == group || (group ++ ['.']).isPrefixOf name

def groupIndex (groups : ImportGroups) (name : List Char) : Nat :=
  groups.names.findIdx fun group => covers group name

end ImportGroups

namespace ImportLine

def keyword : List Char := ['i', 'm', 'p', 'o', 'r', 't']

def staticWord : List Char := ['s', 't', 'a', 't', 'i', 'c', ' ']

def dropAll (word : List Char) (s : List Char) : List Char :=
  if word.isPrefixOf s && !word.isEmpty then dropAll word (s.drop word.length) else s
termination_by s.length
decreasing_by
  rename_i h
  simp only [Bool.and_eq_true, Bool.not_eq_true', List.isEmpty_eq_false_iff] at h
  have hlen := (List.isPrefixOf_iff_prefix.1 h.1).length_le
  have hpos := List.length_pos_iff.2 h.2
  simp only [List.length_drop]
  omega

def isImport (line : List Char) : Bool := (keyword ++ [' ']).isPrefixOf line

def isComplete (line : List Char) : Bool := line.getLast? == some ';'

def name (line : List Char) : List Char :=
  Text.trim (dropAll staticWord (Text.trimStart (dropAll keyword line)))

def rank (groups : ImportGroups) (line : List Char) : Nat × List Char :=
  (groups.groupIndex (name line), name line)

def precedes (groups : ImportGroups) (a b : List Char) : Bool :=
  match compare (rank groups a).1 (rank groups b).1 with
  | .lt => true
  | .gt => false
  | .eq => compare (rank groups a).2 (rank groups b).2 != .gt

def dropRepeated : List (List Char) → List (List Char)
  | a :: b :: rest => if a = b then dropRepeated (a :: rest) else a :: dropRepeated (b :: rest)
  | lines => lines

def sortRun (groups : ImportGroups) (run : List (List Char)) : List (List Char) :=
  dropRepeated (run.mergeSort (precedes groups))

end ImportLine

namespace ImportGroups

def malformed (number : Nat) (line : List Char) : EngineError :=
  ⟨"line " ++ String.ofList (Text.decimal number) ++ ": malformed import '" ++
    String.ofList line ++ "'"⟩

/-- The lines with every run of imports in order. `run` holds the run in progress, the latest import
first. -/
def arrange (groups : ImportGroups) (number : Nat) (run : List (List Char)) :
    List (List Char) → Except EngineError (List (List Char))
  | [] => .ok (ImportLine.sortRun groups run.reverse)
  | line :: rest =>
    let trimmed := Text.trim line
    if ImportLine.isImport trimmed then
      if ImportLine.isComplete trimmed then arrange groups (number + 1) (trimmed :: run) rest
      else .error (malformed number trimmed)
    else
      (arrange groups (number + 1) [] rest).map fun arranged =>
        ImportLine.sortRun groups run.reverse ++ line :: arranged

/-- Sorts the imports of a text. All lines end in a line feed then, but the last only if it did. -/
def format (groups : ImportGroups) (text : List Char) : Except EngineError (List Char) :=
  (arrange groups 1 [] ((Text.lines text).map Text.Line.content)).map fun arranged =>
    ['\n'].intercalate arranged ++ (if text.getLast? == some '\n' then ['\n'] else [])

def engine (groups : ImportGroups) : Engine :=
  fun s => .ofExcept ((groups.format s.toList).map String.ofList)

end ImportGroups

def importOrder : EngineConstructor := fun p => .ok (ImportGroups.ofPreferences p).engine

end FormatterModules.Engine
