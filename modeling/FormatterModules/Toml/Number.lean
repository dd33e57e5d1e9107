import FormatterModules.Binary64
import FormatterModules.Toml.Text
import FormatterModules.Toml.Value

namespace FormatterModules.Toml

open FormatterModules.Text

/-- Takes digits off the front of a text. Between two digits a single underscore may stand; it does
not count. -/
def spanDigits (isDigit : Char → Bool) (afterDigit : Bool) : List Char → List Char × List Char
  | [] => ([], [])
  | '_' :: d :: rest =>
    if afterDigit && isDigit d then
      let r := spanDigits isDigit true rest
      (d :: r.1, r.2)
    else ([], '_' :: d :: rest)
  | c :: rest =>
    if isDigit c then
      let r := spanDigits isDigit true rest
      (c :: r.1, r.2)
    else ([], c :: rest)

def spanSign : List Char → List Char × List Char
  | '+' :: rest => (['+'], rest)
  | '-' :: rest => (['-'], rest)
  | s => ([], s)

/-- Takes a decimal number without leading zeros off the front of a text. -/
def spanDecimal? (s : List Char) : Option (List Char × List Char) :=
  let (sign, s) := spanSign s
  match s with
  | '0' :: rest => some (sign ++ ['0'], rest)
  | c :: _ =>
    if c.isDigit then
      let (digits, rest) := spanDigits Char.isDigit false s
      some (sign ++ digits, rest)
    else none
  | [] => none

def spanFraction? : List Char → Option (List Char × List Char)
  | '.' :: rest =>
    match spanDigits Char.isDigit false rest with
    | ([], _) => none
    | (digits, rest) => some ('.' :: digits, rest)
  | _ => none

def spanExponent? : List Char → Option (List Char × List Char)
  | c :: rest =>
    if c == 'e' || c == 'E' then
      let (sign, rest) := spanSign rest
      match spanDigits Char.isDigit false rest with
      | ([], _) => none
      | (digits, rest) => some ('e' :: sign ++ digits, rest)
    else none
  | [] => none

/-- The floating point number that a text writes. One above the largest is refused, but not one below
the smallest. -/
def floatOf? (text : List Char) : Option Value :=
  match Decimal.ofText? text with
  | some d =>
    if d.negative || (Binary64.nearest? d).isSome then some (.float (String.ofList text)) else none
  | none => none

def readDecimalFraction : Reader Value := fun s =>
  match spanDecimal? s with
  | none => none
  | some (whole, rest) =>
    match spanFraction? rest with
    | some (fraction, rest) =>
      let (exponent, rest) := (spanExponent? rest).getD ([], rest)
      (floatOf? (whole ++ fraction ++ exponent)).map fun v => (v, rest)
    | none =>
      match spanExponent? rest with
      | some (exponent, rest) => (floatOf? (whole ++ exponent)).map fun v => (v, rest)
      | none => none

def readSpecialFloat : Reader Value := fun s =>
  let (sign, rest) := spanSign s
  match rest with
  | 'i' :: 'n' :: 'f' :: rest => some (.float (String.ofList (sign ++ ['i', 'n', 'f'])), rest)
  | 'n' :: 'a' :: 'n' :: rest => some (.float (String.ofList (sign ++ ['n', 'a', 'n'])), rest)
  | _ => none

def inIntegerRange (n : Int) : Bool := -9223372036854775808 ≤ n && n ≤ 9223372036854775807

def readBased (base : Nat) (rest : List Char) : Option (Value × List Char) :=
  let isDigit (c : Char) : Bool := (hexValue? c).any (· < base)
  match spanDigits isDigit false rest with
  | ([], _) => none
  | (digits, rest) =>
    match readDigitsOf base 0 digits with
    | some n => if inIntegerRange n then some (.integer n, rest) else none
    | none => none

def signedNumber? : List Char → Option Int
  | '+' :: digits => (readNat? digits).map Int.ofNat
  | '-' :: digits => (readNat? digits).map fun n => -Int.ofNat n
  | digits => (readNat? digits).map Int.ofNat

def readInteger : Reader Value
  | '0' :: 'x' :: rest => readBased 16 rest
  | '0' :: 'o' :: rest => readBased 8 rest
  | '0' :: 'b' :: rest => readBased 2 rest
  | s =>
    match spanDecimal? s with
    | none => none
    | some (text, rest) =>
      match signedNumber? text with
      | some n => if inIntegerRange n then some (.integer n, rest) else none
      | none => none

/-- Reads a number of exactly `count` digits that lies between two bounds. -/
def readFixed (count low high : Nat) : Reader Nat := fun s =>
  let digits := s.take count
  if digits.length = count then
    match readNat? digits with
    | some n => if low ≤ n && n ≤ high then some (n, s.drop count) else none
    | none => none
  else none

def behind? (c : Char) : List Char → Option (List Char)
  | d :: rest => if c == d then some rest else none
  | [] => none

def daysInMonth (year month : Nat) : Nat :=
  if month == 2 then
    if (year % 4 == 0 && year % 100 != 0) || year % 400 == 0 then 29 else 28
  else if [4, 6, 9, 11].contains month then 30
  else 31

def skipDate? (s : List Char) : Option (List Char) := do
  let (year, s) ← readFixed 4 0 9999 s
  let s ← behind? '-' s
  let (month, s) ← readFixed 2 1 12 s
  let s ← behind? '-' s
  let (_, s) ← readFixed 2 1 (daysInMonth year month) s
  return s

def skipSecondFraction : List Char → List Char
  | '.' :: d :: rest => if d.isDigit then rest.dropWhile Char.isDigit else '.' :: d :: rest
  | s => s

def skipTime? (s : List Char) : Option (List Char) := do
  let (_, s) ← readFixed 2 0 23 s
  let s ← behind? ':' s
  let (_, s) ← readFixed 2 0 59 s
  let s ← behind? ':' s
  let (_, s) ← readFixed 2 0 60 s
  return skipSecondFraction s

def skipOffset? : List Char → Option (List Char)
  | 'Z' :: rest => some rest
  | 'z' :: rest => some rest
  | c :: rest =>
    if c == '+' || c == '-' then do
      let (_, s) ← readFixed 2 0 23 rest
      let s ← behind? ':' s
      let (_, s) ← readFixed 2 0 59 s
      return s
    else none
  | [] => none

def skipTimeOfDate : List Char → List Char
  | c :: rest =>
    if c == 'T' || c == 't' || c == ' ' then
      match skipTime? rest with
      | some s => (skipOffset? s).getD s
      | none => c :: rest
    else c :: rest
  | [] => []

def readDate : Reader Value := fun s =>
  ((skipDate? s).map skipTimeOfDate).or (skipTime? s) |>.map fun rest =>
    (.date (String.ofList (s.take (s.length - rest.length))), rest)

def readNumber : Reader Value := fun s =>
  (((readDate s).or (readDecimalFraction s)).or (readSpecialFloat s)).or (readInteger s)

end FormatterModules.Toml
