import FormatterModules.Failure
import FormatterModules.Text.Lines
import FormatterModules.Text.Number

namespace FormatterModules

/-- A version: one or more numbers. -/
@[ext] structure Version where
  parts : List UInt32
  parts_ne_nil : parts ≠ []
  deriving Repr

namespace Version

def readPart? (s : List Char) : Option UInt32 :=
  (Text.readBelow? UInt32.size s).map UInt32.ofNat

def parse? (s : String) : Option Version :=
  match (Text.splitOn '.' s.toList).mapM readPart? with
  | some (p :: ps) => some ⟨p :: ps, by simp⟩
  | _ => none

def render (v : Version) : String :=
  Text.join "." (v.parts.map fun p => String.ofList (Text.decimal p.toNat))

instance : ToString Version := ⟨render⟩

def compareZeros : List UInt32 → Ordering
  | [] => .eq
  | b :: bs => (compare 0 b).then (compareZeros bs)

def compareParts : List UInt32 → List UInt32 → Ordering
  | [], bs => compareZeros bs
  | a :: as, [] => (compare a 0).then (compareParts as [])
  | a :: as, b :: bs => (compare a b).then (compareParts as bs)

instance : Ord Version := ⟨fun a b => compareParts a.parts b.parts⟩

instance : BEq Version := ⟨fun a b => compare a b == .eq⟩

/-- The numbers up to the last that is not zero. -/
def significant (v : Version) : List UInt32 := (v.parts.reverse.dropWhile (· == 0)).reverse

def ofArgument (s : String) : Except Failure Version :=
  match parse? s with
  | some v => .ok v
  | none => .error (.invalidArgument ("Malformed version '" ++ s ++ "'"))

end Version

end FormatterModules
