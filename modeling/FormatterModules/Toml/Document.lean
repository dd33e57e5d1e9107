import FormatterModules.Toml.Number

namespace FormatterModules.Toml

/-- What a name stands for while a document is read. -/
inductive Node
  | value (v : Value)
  | table (implicit dotted : Bool) (entries : List (String × Node))
  | tables (elements : List (List (String × Node)))

abbrev Entries := List (String × Node)

def Entries.set (entries : Entries) (name : String) (node : Node) : Entries :=
  match entries with
  | [] => [(name, node)]
  | e :: rest => if e.1 == name then (name, node) :: rest else e :: Entries.set rest name node

/-- Changes the table at the end of a path. Tables that are missing on the way become implicit ones.
Of an array of tables the latest is meant. Dotted keys may not lead through a table that has a
header. -/
def descend (dotted : Bool) (change : (isDotted : Bool) → Entries → Option Entries) :
    (path : List String) → (isDotted : Bool) → Entries → Option Entries
  | [], isDotted, entries => change isDotted entries
  | name :: path, _, entries =>
    match entries.lookup name with
    | none =>
      (descend dotted change path dotted []).map fun inner =>
        entries.set name (.table true dotted inner)
    | some (.value _) => none
    | some (.tables []) => none
    | some (.tables (latest :: earlier)) =>
      (descend dotted change path false latest).map fun inner =>
        entries.set name (.tables (inner :: earlier))
    | some (.table implicit isDotted inner) =>
      if dotted && !implicit then none
      else
        (descend dotted change path isDotted inner).map fun inner =>
          entries.set name (.table implicit isDotted inner)

/-- Assigns a value to a key that has none. A key with dots belongs to a table made by dotted keys,
any other to a table made otherwise. -/
def assign (path : List String) (name : String) (v : Value) : Entries → Option Entries :=
  descend true
    (fun isDotted entries =>
      if isDotted == path.isEmpty || (entries.lookup name).isSome then none
      else some (entries.set name (.value v)))
    path false

def openTable (name : String) (entries : Entries) : Option Entries :=
  match entries.lookup name with
  | none => some (entries.set name (.table false false []))
  | some (.table true false inner) => some (entries.set name (.table false false inner))
  | some _ => none

def openElement (name : String) (entries : Entries) : Option Entries :=
  match entries.lookup name with
  | none => some (entries.set name (.tables [[]]))
  | some (.tables elements) => some (entries.set name (.tables ([] :: elements)))
  | some _ => none

/-- One statement of a document. -/
inductive Statement
  | header (path : List String)
  | elementHeader (path : List String)
  | assignment (key : List String) (v : Value)

def openAt (openLast : String → Entries → Option Entries) (path : List String) (root : Entries) :
    Option Entries :=
  path.getLast?.bind fun name =>
    descend false (fun _ entries => openLast name entries) path.dropLast false root

def run (current : List String) (root : Entries) : List Statement → Option Entries
  | [] => some root
  | .header path :: rest => (openAt openTable path root).bind fun root => run path root rest
  | .elementHeader path :: rest =>
    (openAt openElement path root).bind fun root => run path root rest
  | .assignment key v :: rest =>
    (key.getLast?.bind fun name =>
      descend false (fun _ entries => assign key.dropLast name v entries) current false root).bind
        fun root => run current root rest

mutual

def Node.toValue : Node → Value
  | .value v => v
  | .table _ _ entries => .table (entryValues entries)
  | .tables elements => .array (elementValues elements [])

def entryValues : List (String × Node) → List (String × Value)
  | [] => []
  | (name, node) :: rest => (name, node.toValue) :: entryValues rest

def elementValues : List (List (String × Node)) → List Value → List Value
  | [], later => later
  | latest :: earlier, later => elementValues earlier (.table (entryValues latest) :: later)

end

def readItems (readItem : Reader Value) : (fuel : Nat) → Reader (List Value)
  | 0, _ => none
  | fuel + 1, s =>
    match skipTrivia false s with
    | ']' :: rest => some ([], rest)
    | s =>
      match readItem s with
      | none => none
      | some (v, rest) =>
        match skipTrivia false rest with
        | ',' :: rest => (readItems readItem fuel rest).map fun r => (v :: r.1, r.2)
        | ']' :: rest => some ([v], rest)
        | _ => none

def readPair (readItem : Reader Value) : Reader (List String × Value) := fun s =>
  match readKey s with
  | some (key, '=' :: rest) =>
    (readItem (skipSpaces rest)).map fun r => ((key, r.1), skipSpaces r.2)
  | _ => none

def readPairs (readItem : Reader Value) : (fuel : Nat) → Reader (List (List String × Value))
  | 0, _ => none
  | fuel + 1, s =>
    match readPair readItem s with
    | some (pair, ',' :: rest) =>
      (readPairs readItem fuel rest).map fun r => (pair :: r.1, r.2)
    | some (pair, '\x7d' :: rest) => some ([pair], rest)
    | _ => none

def inlineTable (pairs : List (List String × Value)) : Option Value :=
  (run [] [] (pairs.map fun p => .assignment p.1 p.2)).map fun entries =>
    .table (entryValues entries)

def readValue : (limit : Nat) → Reader Value
  | _, '"' :: rest => (readString ('"' :: rest)).map fun r => (.string r.1, r.2)
  | _, '\'' :: rest => (readString ('\'' :: rest)).map fun r => (.string r.1, r.2)
  | limit + 1, '[' :: rest =>
    (readItems (readValue limit) (rest.length + 1) rest).map fun r => (.array r.1, r.2)
  | limit + 1, '\x7b' :: rest =>
    match skipSpaces rest with
    | '\x7d' :: rest => some (.table [], rest)
    | rest =>
      (readPairs (readValue limit) (rest.length + 1) rest).bind fun r =>
        (inlineTable r.1).map fun v => (v, r.2)
  | _, 't' :: 'r' :: 'u' :: 'e' :: rest => some (.boolean true, rest)
  | _, 'f' :: 'a' :: 'l' :: 's' :: 'e' :: rest => some (.boolean false, rest)
  | _, s => readNumber s

def readStatement : Reader Statement
  | '[' :: '[' :: rest =>
    match readKey rest with
    | some (path, ']' :: ']' :: rest) => (lineEnd? rest).map fun rest => (.elementHeader path, rest)
    | _ => none
  | '[' :: rest =>
    match readKey rest with
    | some (path, ']' :: rest) => (lineEnd? rest).map fun rest => (.header path, rest)
    | _ => none
  | s =>
    match readPair (readValue nestingLimit) s with
    | some ((key, v), rest) => (lineEnd? rest).map fun rest => (.assignment key v, rest)
    | none => none

def readStatements : (fuel : Nat) → List Char → Option (List Statement)
  | 0, _ => none
  | fuel + 1, s =>
    match skipTrivia false s with
    | [] => some []
    | s =>
      match readStatement s with
      | some (statement, rest) => (readStatements fuel rest).map (statement :: ·)
      | none => none

def dropMark : List Char → List Char
  | c :: rest => if c.toNat == 0xFEFF then rest else c :: rest
  | [] => []

def parse (s : String) : Option Value :=
  let s := dropMark s.toList
  (readStatements (s.length + 1) s).bind fun statements =>
    (run [] [] statements).map fun entries => .table (entryValues entries)

end FormatterModules.Toml
