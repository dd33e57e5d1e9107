import FormatterModules.Engine
import FormatterModules.Text.Lines
import FormatterModules.Text.Number

namespace FormatterModules.Engine

/-- What margins are made of. -/
inductive IndentStyle
  | spaces
  | tabs
  deriving DecidableEq, Repr

/-- How margins are written: what they are made of, and how many columns a tab has. -/
structure Indentation where
  style : IndentStyle
  size : Nat
  size_pos : 0 < size
  deriving Repr

namespace Indentation

def isMargin (c : Char) : Bool := c == ' ' || c == '\t'

def columns (size : Nat) (margin : List Char) : Nat :=
  margin.foldr (fun c width => (if c == '\t' then size else 1) + width) 0

/-- Columns are counted in words of 64 bits. -/
def columnBound : Nat := UInt64.size

def leading (content : List Char) : List Char := content.takeWhile isMargin

def body (content : List Char) : List Char := content.dropWhile isMargin

def margin (indentation : Indentation) (width : Nat) : List Char :=
  match indentation.style with
  | .spaces => List.replicate width ' '
  | .tabs =>
    List.replicate (width / indentation.size) '\t' ++
      List.replicate (width % indentation.size) ' '

def realign (indentation : Indentation) (content : List Char) : List Char :=
  indentation.margin (columns indentation.size (leading content)) ++ body content

def format (indentation : Indentation) (text : List Char) : List Char :=
  Text.mapContents indentation.realign text

def marginLength (indentation : Indentation) (width : Nat) : Nat :=
  match indentation.style with
  | .spaces => width
  | .tabs => width / indentation.size + width % indentation.size

def realignedSize (indentation : Indentation) (line : Text.Line) : Nat :=
  indentation.marginLength (columns indentation.size (leading line.content)) +
    Text.byteSize (body line.content) + Text.byteSize line.terminator.chars

def formattedSize (indentation : Indentation) (ls : List Text.Line) : Nat :=
  ls.foldr (fun line rest => indentation.realignedSize line + rest) 0

def fits (indentation : Indentation) (text : List Char) : Bool :=
  let ls := Text.lines text
  ls.all (fun line => columns indentation.size (leading line.content) < columnBound) &&
    indentation.formattedSize ls ≤ Text.maxByteSize

def engine (indentation : Indentation) : Engine := guarded indentation.fits indentation.format

def defaultSize : Nat := 4

def readStyle (raw? : Option String) : Except EngineError IndentStyle :=
  match raw?.getD "spaces" with
  | "spaces" => .ok .spaces
  | "tabs" => .ok .tabs
  | other => .error ⟨"unknown indent.style '" ++ other ++ "'"⟩

def readSize (style : IndentStyle) (raw? : Option String) : Except EngineError Indentation :=
  match raw? with
  | none => .ok ⟨style, defaultSize, by decide⟩
  | some raw =>
    match Text.readBelow? columnBound raw.toList with
    | some (n + 1) => .ok ⟨style, n + 1, Nat.succ_pos n⟩
    | _ => .error ⟨"invalid indent.size '" ++ raw ++ "'"⟩

def ofPreferences (p : Preferences) : Except EngineError Indentation :=
  match readStyle (p.get? "indent.style") with
  | .error e => .error e
  | .ok style => readSize style (p.get? "indent.size")

end Indentation

def indent : EngineConstructor := fun p => (Indentation.ofPreferences p).map Indentation.engine

end FormatterModules.Engine
