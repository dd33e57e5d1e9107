import FormatterModules.Text.Number

namespace FormatterModules.Toml

open FormatterModules.Text

abbrev Reader (α : Type) := List Char → Option (α × List Char)

def isSpace (c : Char) : Bool := c == ' ' || c == '\t'

def isVisible (c : Char) : Bool := c == '\t' || (0x20 ≤ c.toNat && c.toNat != 0x7F)

def skipSpaces (s : List Char) : List Char := s.dropWhile isSpace

def newline? : List Char → Option (List Char)
  | '\n' :: rest => some rest
  | '\r' :: '\n' :: rest => some rest
  | _ => none

/-- The text behind a comment, which ends before the line end. -/
def skipComment : List Char → List Char
  | '#' :: rest => rest.dropWhile isVisible
  | s => s

/-- The text behind the rest of a line, on which only spaces and a comment may stand. -/
def lineEnd? (s : List Char) : Option (List Char) :=
  match skipComment (skipSpaces s) with
  | [] => some []
  | rest => newline? rest

def skipTrivia (inComment : Bool) : List Char → List Char
  | [] => []
  | '\n' :: rest => skipTrivia false rest
  | '\r' :: '\n' :: rest => skipTrivia false rest
  | c :: rest =>
    if inComment then if isVisible c then skipTrivia true rest else c :: rest
    else if isSpace c then skipTrivia false rest
    else if c == '#' then skipTrivia true rest
    else c :: rest

def scalar? (digits : List Char) : Option Char :=
  (readDigitsOf 16 0 digits).bind fun n => if n.isValidChar then some (Char.ofNat n) else none

def escape? : List Char → Option (Char × Nat)
  | 'b' :: _ => some ('\x08', 1)
  | 'f' :: _ => some ('\x0c', 1)
  | 'n' :: _ => some ('\n', 1)
  | 'r' :: _ => some ('\r', 1)
  | 't' :: _ => some ('\t', 1)
  | '\\' :: _ => some ('\\', 1)
  | '"' :: _ => some ('"', 1)
  | 'u' :: rest =>
    if rest.length < 4 then none else (scalar? (rest.take 4)).map fun c => (c, 5)
  | 'U' :: rest =>
    if rest.length < 8 then none else (scalar? (rest.take 8)).map fun c => (c, 9)
  | _ => none

def readBasic (acc : List Char) (s : List Char) : Option (List Char × List Char) :=
  match s with
  | [] => none
  | '"' :: rest => some (acc.reverse, rest)
  | '\\' :: rest =>
    match escape? rest with
    | some (c, n) => readBasic (c :: acc) (rest.drop n)
    | none => none
  | c :: rest => if isVisible c then readBasic (c :: acc) rest else none
termination_by s.length
decreasing_by all_goals (simp only [List.length_cons, List.length_drop]; omega)

def readLiteral (acc : List Char) : Reader (List Char)
  | [] => none
  | '\'' :: rest => some (acc.reverse, rest)
  | c :: rest => if isVisible c then readLiteral (c :: acc) rest else none

def endsLine (s : List Char) : Bool := (newline? (skipSpaces s)).isSome

/-- Reads a string with escapes over several lines, behind its opening quotes. Two quotes may stand
before the closing ones. Behind a backslash at the end of a line all blanks are skipped. -/
def readBasicLines (skipping : Bool) (acc : List Char) (s : List Char) :
    Option (List Char × List Char) :=
  match s with
  | [] => none
  | '"' :: '"' :: '"' :: '"' :: '"' :: rest => some (('"' :: '"' :: acc).reverse, rest)
  | '"' :: '"' :: '"' :: '"' :: rest => some (('"' :: acc).reverse, rest)
  | '"' :: '"' :: '"' :: rest => some (acc.reverse, rest)
  | '\n' :: rest => readBasicLines skipping (if skipping then acc else '\n' :: acc) rest
  | '\r' :: '\n' :: rest => readBasicLines skipping (if skipping then acc else '\n' :: acc) rest
  | '\\' :: rest =>
    if endsLine rest then readBasicLines true acc rest
    else
      match escape? rest with
      | some (c, n) => readBasicLines false (c :: acc) (rest.drop n)
      | none => none
  | c :: rest =>
    if !isVisible c then none
    else if skipping && isSpace c then readBasicLines true acc rest
    else readBasicLines false (c :: acc) rest
termination_by s.length
decreasing_by all_goals (simp only [List.length_cons, List.length_drop]; omega)

def readLiteralLines (acc : List Char) : Reader (List Char)
  | [] => none
  | '\'' :: '\'' :: '\'' :: '\'' :: '\'' :: rest => some (('\'' :: '\'' :: acc).reverse, rest)
  | '\'' :: '\'' :: '\'' :: '\'' :: rest => some (('\'' :: acc).reverse, rest)
  | '\'' :: '\'' :: '\'' :: rest => some (acc.reverse, rest)
  | '\n' :: rest => readLiteralLines ('\n' :: acc) rest
  | '\r' :: '\n' :: rest => readLiteralLines ('\n' :: acc) rest
  | c :: rest => if isVisible c then readLiteralLines (c :: acc) rest else none

def dropNewline (s : List Char) : List Char := (newline? s).getD s

def readString : Reader String
  | '"' :: '"' :: '"' :: rest =>
    (readBasicLines false [] (dropNewline rest)).map fun r => (String.ofList r.1, r.2)
  | '"' :: rest => (readBasic [] rest).map fun r => (String.ofList r.1, r.2)
  | '\'' :: '\'' :: '\'' :: rest =>
    (readLiteralLines [] (dropNewline rest)).map fun r => (String.ofList r.1, r.2)
  | '\'' :: rest => (readLiteral [] rest).map fun r => (String.ofList r.1, r.2)
  | _ => none

def isBareKeyChar (c : Char) : Bool := c.isAlphanum || c == '-' || c == '_'

def readKeyPart : Reader String
  | '"' :: rest => (readBasic [] rest).map fun r => (String.ofList r.1, r.2)
  | '\'' :: rest => (readLiteral [] rest).map fun r => (String.ofList r.1, r.2)
  | s =>
    let word := s.takeWhile isBareKeyChar
    if word.isEmpty then none else some (String.ofList word, s.drop word.length)

/-- Reads a key of at most `limit` parts, which stand between dots and may have spaces around them. -/
def readKeyParts : Nat → Reader (List String)
  | 0, _ => none
  | limit + 1, s =>
    match readKeyPart (skipSpaces s) with
    | none => none
    | some (part, rest) =>
      match skipSpaces rest with
      | '.' :: rest => (readKeyParts limit rest).map fun r => (part :: r.1, r.2)
      | rest => some ([part], rest)

def nestingLimit : Nat := 79

def readKey : Reader (List String) := readKeyParts nestingLimit

end FormatterModules.Toml
