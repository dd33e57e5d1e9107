import FormatterModules.Url.Basic

namespace FormatterModules.Url

def trim (s : List Char) : List Char :=
  let isEdge (c : Char) : Bool := c.toNat ≤ 0x20
  ((s.dropWhile isEdge).reverse.dropWhile isEdge).reverse

def isBreak (c : Char) : Bool := c == '\t' || c == '\n' || c == '\r'

def withoutBreaks (s : List Char) : List Char := s.filter fun c => !isBreak c

def isSlash (kind : SchemeKind) (c : Char) : Bool := c == '/' || (c == '\\' && kind != .ordinary)

def endsAuthority (kind : SchemeKind) (c : Char) : Bool := isSlash kind c || c == '?' || c == '#'

/-- The path, query and fragment of a text, not yet encoded. -/
structure Tail where
  path : List Char
  query? : Option (List Char)
  fragment? : Option (List Char)

def splitTail (s : List Char) : Tail :=
  let beforeFragment := s.takeWhile (· != '#')
  let path := beforeFragment.takeWhile (· != '?')
  let query? :=
    if path.length < beforeFragment.length then some (beforeFragment.drop (path.length + 1)) else none
  let fragment? :=
    if beforeFragment.length < s.length then some (s.drop (beforeFragment.length + 1)) else none
  ⟨path, query?, fragment?⟩

end FormatterModules.Url
