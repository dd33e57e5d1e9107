import FormatterModules.Decimal

namespace FormatterModules

/-- The number `mantissa * 2 ^ exponent` with a sign. -/
structure Binary64 where
  negative : Bool
  mantissa : Nat
  exponent : Int
  deriving DecidableEq, Repr

namespace Binary64

def leastExponent : Int := -1074

def greatestExponent : Int := 971

def mantissaLimit : Nat := 9007199254740992

def scale (base : Nat) (exponent : Int) (r : Nat × Nat) : Nat × Nat :=
  if 0 ≤ exponent then (r.1 * Nat.pow base exponent.toNat, r.2)
  else (r.1, r.2 * Nat.pow base (-exponent).toNat)

def roundedQuotient (n d : Nat) : Nat :=
  let twice := 2 * (n % d)
  if d < twice || (twice == d && n / d % 2 == 1) then n / d + 1 else n / d

def floorLog2 (r : Nat × Nat) : Int :=
  let k : Int := Int.ofNat (Nat.log2 r.1) - Int.ofNat (Nat.log2 r.2)
  let t := scale 2 (-k) r
  if t.2 ≤ t.1 then k else k - 1

def zero (negative : Bool) : Binary64 := ⟨negative, 0, leastExponent⟩

def ofRatio? (negative : Bool) (r : Nat × Nat) : Option Binary64 :=
  if r.1 == 0 then some (zero negative)
  else
    let e := max leastExponent (floorLog2 r - 52)
    let t := scale 2 (-e) r
    let rounded := roundedQuotient t.1 t.2
    let (m, e) := if rounded == mantissaLimit then (rounded / 2, e + 1) else (rounded, e)
    if greatestExponent < e then none else some ⟨negative, m, e⟩

def nearest? (d : Decimal) : Option Binary64 :=
  if d.digits == 0 || d.magnitude < -330 then some (zero d.negative)
  else if 310 < d.magnitude then none
  else ofRatio? d.negative (scale 10 d.exponent (d.digits, 1))

def ratio (x : Binary64) : Nat × Nat := scale 2 x.exponent (x.mantissa, 1)

def times? (x y : Binary64) : Option Binary64 :=
  ofRatio? x.negative (x.ratio.1 * y.ratio.1, x.ratio.2 * y.ratio.2)

def over? (x y : Binary64) : Option Binary64 :=
  ofRatio? x.negative (x.ratio.1 * y.ratio.2, x.ratio.2 * y.ratio.1)

/-- The distance to the numbers that are nearer to the next smaller one, in quarters of the last place
of the mantissa. Above a power of two numbers lie twice as close below as above. -/
def spaceBelow (x : Binary64) : Nat :=
  if x.mantissa == mantissaLimit / 2 && leastExponent < x.exponent then 1 else 2

def readsBack (x : Binary64) (t : Nat × Nat) (c : Nat) : Bool :=
  let value := c * t.2 * (4 * x.mantissa)
  let low := t.1 * (4 * x.mantissa - x.spaceBelow)
  let high := t.1 * (4 * x.mantissa + 2)
  if x.mantissa % 2 == 0 then low ≤ value && value ≤ high else low < value && value < high

def multiple? (x : Binary64) (exponent : Int) : Option Nat :=
  let t := scale 10 (-exponent) x.ratio
  let nearest := roundedQuotient t.1 t.2
  let other := if nearest == t.1 / t.2 then nearest + 1 else nearest - 1
  if x.readsBack t nearest then some nearest
  else if x.readsBack t other then some other
  else none

/-- The decimal number of fewest digits that reads back as the number, and of these the nearest. It is
a multiple of the largest power of ten that has such multiples. -/
def shortest (x : Binary64) : Decimal :=
  let exponents := (List.range 640).map fun i => 310 - Int.ofNat i
  let found? := exponents.findSome? fun e => (x.multiple? e).map fun c => (c, e)
  let (digits, exponent) := if x.mantissa == 0 then (0, 0) else found?.getD (0, 0)
  ⟨x.negative, digits, exponent⟩

end Binary64

end FormatterModules
