import FormatterModules.Text.Number

namespace FormatterModules

/-- The number `digits * 10 ^ exponent` with a sign, which zero may have too. -/
structure Decimal where
  negative : Bool
  digits : Nat
  exponent : Int
  deriving DecidableEq, Repr

namespace Decimal

open FormatterModules.Text

def splitSign : List Char → Bool × List Char
  | '-' :: rest => (true, rest)
  | '+' :: rest => (false, rest)
  | s => (false, s)

def readInteger? (s : List Char) : Option Int :=
  let (negative, digits) := splitSign s
  (readNat? digits).map fun n => if negative then -Int.ofNat n else Int.ofNat n

def ofText? (s : List Char) : Option Decimal :=
  let (negative, s) := splitSign s
  let isMark (c : Char) : Bool := c == 'e' || c == 'E'
  let coefficient := s.takeWhile fun c => !isMark c
  let whole := coefficient.takeWhile (· != '.')
  let places := coefficient.drop (whole.length + 1)
  let exponent? :=
    if coefficient.length < s.length then readInteger? (s.drop (coefficient.length + 1)) else some 0
  match readNat? (whole ++ places), exponent? with
  | some digits, some exponent => some ⟨negative, digits, exponent - places.length⟩
  | _, _ => none

def magnitude (d : Decimal) : Int := (decimal d.digits).length + d.exponent

end Decimal

end FormatterModules
