import FormatterModules.Text.Lines
import FormatterModules.Text.Number
import FormatterModules.Unicode.Printable

namespace FormatterModules.Text

/-- A character between quotes. Those that cannot be seen are written by their number. -/
def quoteChar (c : Char) : List Char :=
  if c == '\x00' then ['\\', '0']
  else if c == '\t' then ['\\', 't']
  else if c == '\r' then ['\\', 'r']
  else if c == '\n' then ['\\', 'n']
  else if c == '"' || c == '\\' then ['\\', c]
  else if Unicode.isPrintable c then [c]
  else ['\\', 'u', '\x7b'] ++ hexadecimal c.toNat ++ ['\x7d']

def quoted (s : String) : String :=
  String.ofList (['"'] ++ s.toList.flatMap quoteChar ++ ['"'])

def optional (x? : Option String) : String :=
  match x? with
  | some x => "Some(" ++ x ++ ")"
  | none => "None"

def bracketed (xs : List String) : String := "[" ++ join ", " xs ++ "]"

def braced (xs : List String) : String := "\x7b" ++ join ", " xs ++ "\x7d"

def record (name : String) (fields : List (String × String)) : String :=
  name ++ " \x7b " ++ join ", " (fields.map fun f => f.1 ++ ": " ++ f.2) ++ " \x7d"

end FormatterModules.Text
