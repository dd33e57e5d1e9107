import FormatterModules.Failure
import FormatterModules.Ordered.Map
import FormatterModules.Text.Blank
import FormatterModules.Text.Lines
import FormatterModules.Text.Number
import FormatterModules.Text.Quoted

namespace FormatterModules

/-- The preferences of an engine. -/
structure Preferences where
  entries : OrderedMap String String
  deriving DecidableEq, Inhabited

namespace Preferences

def empty : Preferences := ⟨.empty⟩

def get? (p : Preferences) (key : String) : Option String := p.entries.get? key

def insert (p : Preferences) (key value : String) : Preferences := ⟨p.entries.insert key value⟩

def merge (p q : Preferences) : Preferences := ⟨p.entries.merge q.entries⟩

def toList (p : Preferences) : List (String × String) := p.entries.toList

def ofList (pairs : List (String × String)) : Preferences := ⟨.ofList pairs⟩

/-- What a line that is no pair can have wrong. -/
inductive LineFault
  | noSeparator
  | emptyKey
  deriving DecidableEq, Repr

/-- What a line says. -/
inductive LineContent
  | nothing
  | pair (key value : String)
  deriving DecidableEq, Repr

def isSeparator (c : Char) : Bool := c == '=' || c == ':'

def startsComment (c : Char) : Bool := c == '#' || c == '!'

def readTrimmed (line : List Char) : Except LineFault LineContent :=
  if line.isEmpty || line.head?.any startsComment then .ok .nothing
  else
    match line.dropWhile fun c => !isSeparator c with
    | [] => .error .noSeparator
    | _ :: value =>
      let key := Text.trim (line.takeWhile fun c => !isSeparator c)
      if key.isEmpty then .error .emptyKey
      else .ok (.pair (String.ofList key) (String.ofList (Text.trim value)))

def LineFault.details (number : Nat) (line : List Char) : LineFault → String
  | noSeparator =>
    "line " ++ String.ofList (Text.decimal number) ++ ": expected 'key=value', found '" ++
      String.ofList line ++ "'"
  | emptyKey => "line " ++ String.ofList (Text.decimal number) ++ ": empty key"

def readLines (origin : String) (number : Nat) (p : Preferences) :
    List (List Char) → Except Failure Preferences
  | [] => .ok p
  | line :: rest =>
    let line := Text.trim line
    match readTrimmed line with
    | .error fault => .error (.parse origin (fault.details number line))
    | .ok .nothing => readLines origin (number + 1) p rest
    | .ok (.pair key value) => readLines origin (number + 1) (p.insert key value) rest

def parse (origin : String) (content : String) : Except Failure Preferences :=
  readLines origin 1 empty ((Text.lines content.toList).map Text.Line.content)

def inspect (p : Preferences) : String :=
  Text.record "Preferences"
    [("entries", Text.braced (p.toList.map fun e => Text.quoted e.1 ++ ": " ++ Text.quoted e.2))]

end Preferences

end FormatterModules
