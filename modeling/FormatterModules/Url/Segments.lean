import FormatterModules.Url.Separator

namespace FormatterModules.Url

def isSingleDot (s : List Char) : Bool :=
  ["." , "%2e", "%2E"].contains (String.ofList s)

def isDoubleDot (s : List Char) : Bool :=
  ["..", "%2e%2e", "%2e%2E", "%2E%2e", "%2E%2E", "%2e.", "%2E.", ".%2e", ".%2E"].contains
    (String.ofList s)

def isDrive (s : List Char) : Bool :=
  match s with
  | [letter, mark] => letter.isAlpha && (mark == ':' || mark == '|')
  | _ => false

def splitDriveAtBreak? (s : List Char) : Option (List Char × List Char) :=
  let behindColon := (s.dropWhile (· != ':')).drop 1
  match withoutBreaks s with
  | letter :: ':' :: c :: rest =>
    if letter.isAlpha && behindColon.head?.any isBreak then some ([letter, ':'], c :: rest) else none
  | _ => none

/-- A path that is being read: the segments so far, and whether the first of them was read as the
drive of a file. -/
structure PathSoFar where
  segments : List (List Char)
  hasDrive : Bool

namespace PathSoFar

def push (p : PathSoFar) (s : List Char) : PathSoFar := { p with segments := p.segments ++ [s] }

def dropLast (p : PathSoFar) : PathSoFar :=
  if p.segments.getLast?.any isDrive then p else { p with segments := p.segments.dropLast }

def place (kind : SchemeKind) (p : PathSoFar) (s : List Char) : PathSoFar :=
  let text := percentEncode encodedInPath (withoutBreaks s)
  if kind == .file && p.segments.isEmpty then
    match splitDriveAtBreak? s with
    | some (drive, rest) => (p.push drive).push (percentEncode encodedInPath rest)
    | none => if isDrive text then ⟨[text.take 1 ++ [':']], true⟩ else p.push text
  else p.push text

def add (kind : SchemeKind) (p : PathSoFar) : List (List Char) → PathSoFar
  | [] => p
  | s :: rest =>
    let text := percentEncode encodedInPath (withoutBreaks s)
    if isDoubleDot text then
      if rest.isEmpty then p.dropLast.push [] else p.dropLast.add kind rest
    else if isSingleDot text then
      if rest.isEmpty then p.push [] else p.add kind rest
    else (p.place kind s).add kind rest

def render (kind : SchemeKind) (p : PathSoFar) : String :=
  let kept := if kind == .file then p.segments.dropWhile List.isEmpty else p.segments
  String.ofList ('/' :: ['/'].intercalate kept)

end PathSoFar

/-- Reads a path behind its first slash, on top of the segments before it. -/
def readSegments (kind : SchemeKind) (before : List (List Char)) (s : List Char) : PathSoFar :=
  PathSoFar.add kind ⟨before, false⟩ (s.splitOnP (isSlash kind))

def readPath (kind : SchemeKind) (before : List (List Char)) (s : List Char) : String :=
  (readSegments kind before s).render kind

end FormatterModules.Url
