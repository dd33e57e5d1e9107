import FormatterModules.Url.Reading

namespace FormatterModules.Url

def startsAuthority (kind : SchemeKind) (s : List Char) : Bool :=
  match s with
  | a :: b :: _ => isSlash kind a && isSlash kind b
  | _ => false

def withTail (base : Url) (s : List Char) : Url :=
  let kind := schemeKind base.scheme
  let tail := splitTail s
  let fragment? := tail.fragment?.map readFragment
  let query? := tail.query?.map (readQuery kind)
  match tail.path with
  | [] =>
    { base with query? := if tail.query?.isSome then query? else base.query?, fragment? }
  | c :: rest =>
    if isSlash kind c then { base with path := readPath kind [] rest, query?, fragment? }
    else { base with path := readPath kind base.segments.dropLast (c :: rest), query?, fragment? }

def readReference (base : Url) (s : List Char) : Except Error Url :=
  let text := withoutBreaks s
  if startsAuthority (schemeKind base.scheme) text then readAfterScheme base.scheme s
  else .ok (base.withTail text)

/-- Reads a reference behind the scheme it names. The scheme of the base itself does not make a
reference absolute. -/
def resolve (base : Url) (s : String) : Except Error Url :=
  let text := trim s.toList
  match splitScheme? text with
  | none => readReference base text
  | some (scheme, rest) =>
    if scheme == base.scheme then readReference base rest else readAfterScheme scheme rest

end FormatterModules.Url
