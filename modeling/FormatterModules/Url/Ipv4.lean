import FormatterModules.Text.Lines
import FormatterModules.Text.Number

namespace FormatterModules.Url

open FormatterModules.Text

def ipv4Number? (s : List Char) : Option Nat :=
  match s with
  | [] => none
  | '0' :: 'x' :: rest => readDigitsOf 16 0 rest
  | '0' :: 'X' :: rest => readDigitsOf 16 0 rest
  | '0' :: d :: rest => readDigitsOf 8 0 (d :: rest)
  | _ => readDigitsOf 10 0 s

def dottedParts (host : List Char) : List (List Char) :=
  let parts := splitOn '.' host
  if parts.getLast? == some [] then parts.dropLast else parts

/-- The host has to be an IPv4 address, because its last part is a number. -/
def endsInNumber (host : List Char) : Bool :=
  match (dottedParts host).getLast? with
  | none => false
  | some last => (!last.isEmpty && last.all Char.isDigit) || (ipv4Number? last).isSome

def ipv4OfNumbers? (numbers : List Nat) : Option Nat :=
  match numbers.reverse with
  | [] => none
  | last :: before =>
    let fixed := before.reverse
    if numbers.length ≤ 4 && fixed.all (· ≤ 255) && last < 1 <<< (8 * (4 - fixed.length)) then
      some (fixed.zipIdx.foldl (fun address (n, i) => address + n <<< (8 * (3 - i))) last)
    else none

def ipv4? (host : List Char) : Option Nat :=
  ((dottedParts host).mapM ipv4Number?).bind ipv4OfNumbers?

def renderIpv4 (address : Nat) : List Char :=
  ['.'].intercalate ([3, 2, 1, 0].map fun i => decimal (address >>> (8 * i) % 256))

end FormatterModules.Url
