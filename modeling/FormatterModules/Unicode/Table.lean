import FormatterModules.Text.Number
import FormatterModules.Text.Ranges

namespace FormatterModules.Unicode

open FormatterModules.Text

def readWord (number : Nat) : List Char → List Nat
  | [] => [number]
  | c :: rest =>
    if c == ',' then number :: readWord 0 rest
    else readWord (16 * number + (hexValue? c).getD 0) rest

def readWords (word : List Char) : List Char → List (List Char)
  | [] => if word.isEmpty then [] else [word.reverse]
  | c :: rest =>
    if c == ' ' || c == '\n' then
      if word.isEmpty then readWords [] rest else word.reverse :: readWords [] rest
    else readWords (c :: word) rest

/-- Reads rows of numbers: words, with commas between the numbers of a row. -/
def readRows (text : String) : List (List Nat) := (readWords [] text.toList).map (readWord 0)

def readRanges (text : String) : List (Nat × Nat) :=
  (readRows text).filterMap fun
    | [first, last] => some (first, last)
    | _ => none

end FormatterModules.Unicode
