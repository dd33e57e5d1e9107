import FormatterModules.Text.Lines
import FormatterModules.Text.Number

namespace FormatterModules.Url

open FormatterModules.Text

def ipv6Piece? (s : List Char) : Option Nat :=
  if s.isEmpty || 4 < s.length then none else readDigitsOf 16 0 s

def dottedByte? (s : List Char) : Option Nat :=
  if s.isEmpty || (s.head? == some '0' && 1 < s.length) then none
  else (readDigitsOf 10 0 s).filter (· ≤ 255)

def dottedPieces? (s : List Char) : Option (List Nat) :=
  match (splitOn '.' s).mapM dottedByte? with
  | some [a, b, c, d] => some [a * 256 + b, c * 256 + d]
  | _ => none

def ipv6Pieces? : List (List Char) → Option (List Nat)
  | [] => some []
  | [last] => if last.contains '.' then dottedPieces? last else (ipv6Piece? last).map ([·])
  | piece :: rest => (ipv6Piece? piece).bind fun p => (ipv6Pieces? rest).map (p :: ·)

def ipv6Side? (s : List Char) : Option (List Nat) :=
  if s.isEmpty then some [] else ipv6Pieces? (splitOn ':' s)

def splitDoubleColon : List Char → Option (List Char × List Char)
  | [] => none
  | ':' :: ':' :: rest => some ([], rest)
  | c :: rest => (splitDoubleColon rest).map fun (before, after) => (c :: before, after)

/-- Reads an IPv6 address. A double colon stands for one piece or more, and the dotted form may
stand only at the very end. -/
def ipv6? (s : List Char) : Option (List Nat) :=
  match splitDoubleColon s with
  | none =>
    match ipv6Side? s with
    | some pieces => if pieces.length == 8 then some pieces else none
    | none => none
  | some (before, after) =>
    if before.contains '.' then none
    else
      match ipv6Side? before, ipv6Side? after with
      | some front, some back =>
        if front.length + back.length ≤ 7 then
          some (front ++ List.replicate (8 - front.length - back.length) 0 ++ back)
        else none
      | _, _ => none

def zeroRun (pieces : List Nat) : Nat := (pieces.takeWhile (· == 0)).length

def longestZeroRun (start : Nat) : List Nat → Nat × Nat
  | [] => (start, 0)
  | p :: rest =>
    let here := zeroRun (p :: rest)
    let later := longestZeroRun (start + 1) rest
    if later.2 ≤ here then (start, here) else later

def colonPieces (pieces : List Nat) : List Char := [':'].intercalate (pieces.map hexadecimal)

/-- The address in its shortest form: the first longest run of two zeros or more is left out. -/
def renderIpv6 (pieces : List Nat) : List Char :=
  let (start, length) := longestZeroRun 0 pieces
  if length < 2 then colonPieces pieces
  else
    colonPieces (pieces.take start) ++ [':', ':'] ++ colonPieces (pieces.drop (start + length))

end FormatterModules.Url
