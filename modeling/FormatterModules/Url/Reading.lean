import FormatterModules.Url.Authority
import FormatterModules.Url.Segments

namespace FormatterModules.Url

def isSchemeChar (c : Char) : Bool := c.isAlphanum || c == '+' || c == '-' || c == '.'

def splitScheme? (s : List Char) : Option (String × List Char) :=
  let name := withoutBreaks (s.takeWhile (· != ':'))
  match s.dropWhile (· != ':') with
  | _ :: rest =>
    if name.head?.any Char.isAlpha && name.all isSchemeChar then
      some (String.ofList (name.map Char.toLower), rest)
    else none
  | [] => none

def readQuery (kind : SchemeKind) (s : List Char) : String :=
  String.ofList
    (percentEncode (if kind == .ordinary then encodedInQuery else encodedInSpecialQuery) s)

def readFragment (s : List Char) : String := String.ofList (percentEncode encodedInFragment s)

def ofAuthority (scheme : String) (a : Authority) (s : List Char) : Url :=
  let kind := schemeKind scheme
  let tail := splitTail s
  let path :=
    match tail.path with
    | [] => if kind == .ordinary then "" else "/"
    | c :: rest => readPath kind [] (if isSlash kind c then rest else c :: rest)
  { scheme
    username := a.username
    password := a.password
    host? := a.host?
    port? := a.port?
    path
    query? := tail.query?.map (readQuery kind)
    fragment? := tail.fragment?.map readFragment }

def readAfterSlashes (scheme : String) (s : List Char) : Except Error Url :=
  let kind := schemeKind scheme
  let authorityText := s.takeWhile fun c => !endsAuthority kind c
  let rest := s.drop authorityText.length
  match readAuthority scheme (!rest.isEmpty) authorityText with
  | .error e => .error e
  | .ok (a, leftOver) => .ok (ofAuthority scheme a (leftOver ++ rest))

def afterSlash? (s : List Char) : Option (List Char) :=
  match s.dropWhile isBreak with
  | c :: rest => if isSlash .file c then some rest else none
  | [] => none

/-- The URL of a file for a text that starts with the path, behind a slash. The path of a drive leaves
no host. -/
def ofFile (host? : Option Host) (before : List (List Char)) (s : List Char) : Url :=
  let tail := splitTail s
  let path := readSegments .file before tail.path
  { scheme := "file"
    username := ""
    password := ""
    host? := if path.hasDrive then none else host?
    port? := none
    path := path.render .file
    query? := tail.query?.map fun q => readQuery .file (withoutBreaks q)
    fragment? := tail.fragment?.map fun f => readFragment (withoutBreaks f) }

/-- Reads a URL of a file behind its scheme. A drive letter in the place of the host belongs to the
path, and the local host is left out. Without a host the path starts with an empty segment. -/
def readFile (s : List Char) : Except Error Url :=
  match afterSlash? s with
  | none => .ok (ofFile none [] s)
  | some rest =>
    match afterSlash? rest with
    | none => .ok (ofFile none [] rest)
    | some located =>
      let hostText := located.takeWhile fun c => !endsAuthority .file c
      let name := withoutBreaks hostText
      let path := located.drop hostText.length
      let below := (afterSlash? path).getD path
      if isDrive name then .ok (ofFile none [] located)
      else if name.isEmpty then .ok (ofFile none [[]] below)
      else
        match Host.ofText name with
        | .error e => .error e
        | .ok host =>
          .ok (if host == .domain "localhost" then ofFile none [[]] below
            else ofFile (some host) [] below)

def readWithoutAuthority (scheme : String) (s : List Char) : Url :=
  let tail := splitTail s
  let path :=
    match tail.path with
    | '/' :: rest => readPath .ordinary [] rest
    | text => String.ofList (percentEncode isControlOrForeign text)
  { scheme, username := "", password := "", host? := none, port? := none, path
    query? := tail.query?.map (readQuery .ordinary)
    fragment? := tail.fragment?.map readFragment }

def readAfterScheme (scheme : String) (s : List Char) : Except Error Url :=
  match schemeKind scheme with
  | .file => readFile s
  | .special => readAfterSlashes scheme ((withoutBreaks s).dropWhile (isSlash .special))
  | .ordinary =>
    match withoutBreaks s with
    | '/' :: '/' :: rest => readAfterSlashes scheme rest
    | text => .ok (readWithoutAuthority scheme text)

def parse (s : String) : Except Error Url :=
  match splitScheme? (trim s.toList) with
  | none => .error .relativeWithoutBase
  | some (scheme, rest) => readAfterScheme scheme rest

end FormatterModules.Url
