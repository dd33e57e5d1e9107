import FormatterModules.Text.Lines

namespace FormatterModules

/-- A path as it is written. -/
structure Path where
  text : String
  deriving DecidableEq, Repr, Inhabited

namespace Path

/-- One step of a path. -/
inductive Component
  | root
  | current
  | parent
  | named (name : String)
  deriving DecidableEq, Repr

namespace Component

def rank : Component → Nat
  | root => 0
  | current => 1
  | parent => 2
  | named _ => 3

def label : Component → String
  | named name => name
  | _ => ""

instance : Ord Component := ⟨compareLex (compareOn rank) (compareOn label)⟩

instance : Std.TransOrd Component :=
  inferInstanceAs (Std.TransCmp (compareLex (compareOn rank) (compareOn label)))

end Component

def isAbsolute (p : Path) : Bool := p.text.toList.head? == some '/'

def isSkipped (piece : List Char) : Bool := piece == [] || piece == ['.']

def componentOf (piece : List Char) : Component :=
  if piece == ['.', '.'] then .parent else .named (String.ofList piece)

def pieces (p : Path) : List (List Char) := Text.splitOn '/' p.text.toList

/-- The steps of the path. A single dot counts only at the start of a relative path. -/
def components (p : Path) : List Component :=
  let steps := (p.pieces.filter fun piece => !isSkipped piece).map componentOf
  if p.isAbsolute then .root :: steps
  else if p.pieces.head? == some ['.'] then .current :: steps
  else steps

instance : Ord Path := ⟨compareOn components⟩

instance : Std.TransOrd Path := inferInstanceAs (Std.TransCmp (compareOn components))

def dropSkippedEnd (ps : List (List Char)) : List (List Char) :=
  (ps.reverse.dropWhile isSkipped).reverse

def fileName? (p : Path) : Option String :=
  match (p.components).getLast? with
  | some (.named name) => some name
  | _ => none

def lastName (p : Path) : String := p.fileName?.getD p.text

def splitStart (p : Path) : List Char × List (List Char) :=
  if p.isAbsolute then (['/'], Text.splitOn '/' (p.text.toList.drop 1))
  else if p.pieces.head? == some ['.'] then (['.'], Text.splitOn '/' (p.text.toList.drop 1))
  else ([], p.pieces)

def parent? (p : Path) : Option Path :=
  let (start, rest) := p.splitStart
  match (dropSkippedEnd rest).reverse with
  | _ :: before =>
    let kept := dropSkippedEnd before.reverse
    some ⟨String.ofList (start ++ ['/'].intercalate kept)⟩
  | [] => if start == ['.'] then some ⟨""⟩ else none

def join (p q : Path) : Path :=
  if q.isAbsolute then q
  else if p.text.isEmpty || p.text.toList.getLast? == some '/' then ⟨p.text ++ q.text⟩
  else ⟨p.text ++ "/" ++ q.text⟩

def joinText (p : Path) (s : String) : Path := p.join ⟨s⟩

instance : ToString Path := ⟨text⟩

end Path

end FormatterModules
