import FormatterModules.Text.Lines
import FormatterModules.Unicode.Direction
import FormatterModules.Unicode.DomainMapping
import FormatterModules.Unicode.Joining
import FormatterModules.Unicode.Mark
import FormatterModules.Unicode.Normalization
import FormatterModules.Url.Punycode

namespace FormatterModules.Url

open FormatterModules.Unicode

def isForbiddenInDomain (c : Char) : Bool :=
  c.toNat ≤ 0x20 || c.toNat == 0x7F ||
    ['%', '#', '/', ':', '<', '>', '?', '@', '[', '\\', ']', '^', '|'].contains c

def mapDomainChar (c : Char) : Option (List Char) :=
  if c.toNat < 0x80 then some [c.toLower]
  else
    match domainMapping c with
    | .valid => some [c]
    | .replaced text => some text
    | .refused => none

def mapDomain (s : List Char) : Option (List Char) :=
  (s.mapM mapDomainChar).map fun parts => composedForm parts.flatten

def isDomainChar (c : Char) : Bool :=
  if c.toNat < 0x80 then !isForbiddenInDomain c && !c.isUpper
  else domainMapping c == .valid

def isJoiner (c : Char) : Bool := c.toNat == 0x200C || c.toNat == 0x200D

def joinerFits (before : List Char) (joiner : Char) (after : List Char) : Bool :=
  (before.head?.any fun c => combiningClass c.toNat == 9) ||
    (joiner.toNat == 0x200C &&
      ((before.dropWhile isTransparent).head?.any joinsForward) &&
      ((after.dropWhile isTransparent).head?.any joinsBackward))

/-- All joiners of a label fit, given what stands before them in reverse. -/
def joinersFit (before : List Char) : List Char → Bool
  | [] => true
  | c :: rest => (!isJoiner c || joinerFits before c rest) && joinersFit (c :: before) rest

def isRightToLeft (c : Char) : Bool :=
  match direction c with
  | .rightToLeft | .arabicLetter | .arabicNumber => true
  | _ => false

/-- The directions in a label agree: it starts with a letter, holds only what goes with the direction
of that letter, and ends in a letter or number of this direction. -/
def directionsAgree (label : List Char) : Bool :=
  let ds := label.map direction
  let ending := (ds.reverse.dropWhile (· == .nonspacingMark)).head?
  match ds.head? with
  | none => true
  | some .leftToRight =>
    (ds.all fun d => d == .leftToRight || d == .europeanNumber || d == .separatorOrNeutral ||
      d == .nonspacingMark) &&
    (ending == some .leftToRight || ending == some .europeanNumber)
  | some first =>
    (first == .rightToLeft || first == .arabicLetter) &&
    (ds.all fun d => d != .leftToRight && d != .other) &&
    (ending == some .rightToLeft || ending == some .arabicLetter ||
      ending == some .europeanNumber || ending == some .arabicNumber) &&
    !(ds.contains .europeanNumber && ds.contains .arabicNumber)

def punycodeMark : List Char := ['x', 'n', '-', '-']

def longestForeignLabel : Nat := 1000

def longestPunycode : Nat := 2000

/-- A label with the characters that are shown: labels in Punycode are decoded, and have to hold
characters outside ASCII in normal form. -/
def shownLabel? (label : List Char) : Option (List Char) :=
  if punycodeMark.isPrefixOf label then
    if longestPunycode < label.length - 4 then none
    else
      match Punycode.decode (label.drop 4) with
      | none => none
      | some shown =>
        if (shown.any fun c => 0x80 ≤ c.toNat) && composedForm shown == shown then some shown
        else none
  else some label

def isValidLabel (label : List Char) : Bool :=
  label.all isDomainChar && (label.length ≤ longestForeignLabel || label.all fun c => c.toNat < 0x80) &&
    !(label.head?.any isMark) && joinersFit [] label

def asciiLabel (label : List Char) : List Char :=
  if label.any fun c => 0x80 ≤ c.toNat then punycodeMark ++ Punycode.encode label else label

def domainToAscii? (s : List Char) : Option (List Char) :=
  match mapDomain s with
  | none => none
  | some mapped =>
    match (Text.splitOn '.' mapped).mapM shownLabel? with
    | none => none
    | some labels =>
      if !labels.all isValidLabel then none
      else if (labels.any fun l => l.any isRightToLeft) && !labels.all directionsAgree then none
      else some (['.'].intercalate (labels.map asciiLabel))

end FormatterModules.Url
