import FormatterModules.Binary64

namespace FormatterModules

inductive JsonNumber
  | integer (n : Int)
  | float (x : Binary64)
  deriving DecidableEq, Repr

namespace JsonNumber

open FormatterModules.Text

def isKept (n : Int) : Bool := -9223372036854775808 ≤ n && n < 18446744073709551616

def significandLimit : Nat := 18446744073709551616

/-- The leading digits of a number, as many as fit into a word, and the exponent they stand with. -/
structure Significand where
  value : Nat
  exponent : Int
  /-- No more digits fit. -/
  isFull : Bool

def Significand.push (s : Significand) (digit : Nat) : Option Significand :=
  let value := 10 * s.value + digit
  if s.isFull || significandLimit ≤ value then none else some { s with value }

def Significand.addWhole (s : Significand) (digit : Nat) : Significand :=
  (s.push digit).getD { s with exponent := s.exponent + 1, isFull := true }

def Significand.addPlace (s : Significand) (digit : Nat) : Significand :=
  match s.push digit with
  | some t => { t with exponent := t.exponent - 1 }
  | none => { s with isFull := true }

def Significand.ofDigits (whole places : List Char) : Significand :=
  let start : Significand := ⟨0, 0, false⟩
  let read := (whole.filterMap digitValue?).foldl addWhole start
  (places.filterMap digitValue?).foldl addPlace { read with isFull := false }

def greatestPower : Nat := 308

def shift? (x : Binary64) (exponent : Int) : Option Binary64 :=
  match Binary64.nearest? ⟨false, 1, exponent.natAbs⟩ with
  | some power => if 0 ≤ exponent then x.times? power else x.over? power
  | none => none

def scaleByTen? (x : Binary64) (exponent : Int) : Option Binary64 :=
  let step : Int := greatestPower
  if x.mantissa == 0 then some x
  else if step < exponent then none
  else if -step ≤ exponent then shift? x exponent
  else if -2 * step ≤ exponent then (shift? x (-step)).bind fun y => shift? y (exponent + step)
  else some (Binary64.zero x.negative)

def readFloat? (s : List Char) : Option Binary64 :=
  let (negative, s) := Decimal.splitSign s
  let isMark (c : Char) : Bool := c == 'e' || c == 'E'
  let coefficient := s.takeWhile fun c => !isMark c
  let whole := coefficient.takeWhile (· != '.')
  let significand := Significand.ofDigits whole (coefficient.drop (whole.length + 1))
  let exponent? :=
    if coefficient.length < s.length then Decimal.readInteger? (s.drop (coefficient.length + 1))
    else some 0
  match exponent?, Binary64.nearest? ⟨negative, significand.value, 0⟩ with
  | some exponent, some x => scaleByTen? x (significand.exponent + exponent)
  | _, _ => none

def ofText? (s : List Char) : Option JsonNumber :=
  let integer? := if s == ['-', '0'] then none else (Decimal.readInteger? s).filter isKept
  match integer? with
  | some n => some (integer n)
  | none => (readFloat? s).map float

def renderInteger (n : Int) : List Char :=
  match n with
  | .ofNat n => Text.decimal n
  | .negSucc n => '-' :: Text.decimal (n + 1)

def positionalDigits : Nat := 16

/-- Writes `0.d₁d₂… · 10 ^ point` for the given digits. Numbers of more than sixteen digits before
the point, or of more than four zeros behind it, are written with an exponent, which has a sign. -/
def renderScaled (digits : List Char) (point : Int) : List Char :=
  if digits.length ≤ point && point ≤ positionalDigits then
    digits ++ List.replicate (point.toNat - digits.length) '0' ++ ['.', '0']
  else if 0 < point && point ≤ positionalDigits then
    digits.take point.toNat ++ ['.'] ++ digits.drop point.toNat
  else if -5 < point && point ≤ 0 then
    ['0', '.'] ++ List.replicate (-point).toNat '0' ++ digits
  else
    let fraction := if digits.length ≤ 1 then [] else '.' :: digits.drop 1
    let sign := if 0 < point then ['+'] else []
    digits.take 1 ++ fraction ++ ['e'] ++ sign ++ renderInteger (point - 1)

def renderFloat (x : Binary64) : List Char :=
  let d := x.shortest
  let sign := if d.negative then ['-'] else []
  if d.digits == 0 then sign ++ ['0', '.', '0'] else sign ++ renderScaled (decimal d.digits) d.magnitude

def render : JsonNumber → List Char
  | integer n => renderInteger n
  | float x => renderFloat x

end JsonNumber

end FormatterModules
