import FormatterModules.Unicode.NormalizationTable

namespace FormatterModules.Unicode

def combiningClass (n : Nat) : Nat :=
  if n < 0x300 then 0
  else
    (combiningClassRows.findSome? fun
      | [first, last, value] => if first ≤ n && n ≤ last then some value else none
      | _ => none).getD 0

def decompose (n : Nat) : List Nat :=
  if n < 0xC0 then [n]
  else if 0xAC00 ≤ n && n ≤ 0xD7A3 then
    let s := n - 0xAC00
    let lead := 0x1100 + s / 588
    let vowel := 0x1161 + s % 588 / 28
    let tail := 0x11A7 + s % 28
    if s % 28 == 0 then [lead, vowel] else [lead, vowel, tail]
  else
    (decompositionRows.findSome? fun
      | first :: parts => if first == n then some parts else none
      | [] => none).getD [n]

def insertMark (n cls : Nat) : List (Nat × Nat) → List (Nat × Nat)
  | [] => [(n, cls)]
  | (m, c) :: rest => if cls < c then (m, c) :: insertMark n cls rest else (n, cls) :: (m, c) :: rest

def orderMarks (ns : List Nat) : List (Nat × Nat) :=
  (ns.foldl (fun reversed n =>
    let cls := combiningClass n
    if cls == 0 then (n, 0) :: reversed else insertMark n cls reversed) []).reverse

def composePair? (a b : Nat) : Option Nat :=
  if 0x1100 ≤ a && a ≤ 0x1112 && 0x1161 ≤ b && b ≤ 0x1175 then
    some (0xAC00 + ((a - 0x1100) * 21 + (b - 0x1161)) * 28)
  else if 0xAC00 ≤ a && a ≤ 0xD7A3 && (a - 0xAC00) % 28 == 0 && 0x11A8 ≤ b && b ≤ 0x11C2 then
    some (a + (b - 0x11A7))
  else
    compositionRows.findSome? fun
      | [first, second, whole] => if first == a && second == b then some whole else none
      | _ => none

/-- A composition in progress: what is finished, the last starter, what stands behind it and the
class of the last of these. -/
structure Composition where
  finished : List Nat
  starter : Option Nat
  behind : List Nat
  lastClass : Nat

def Composition.toList (c : Composition) : List Nat := c.finished ++ c.starter.toList ++ c.behind

/-- Adds a code point, and composes it with the last starter if nothing stands in the way. -/
def Composition.add (c : Composition) (next : Nat × Nat) : Composition :=
  let (n, cls) := next
  let separate : Composition :=
    if cls == 0 then ⟨c.toList, some n, [], 0⟩
    else { c with behind := c.behind ++ [n], lastClass := cls }
  match c.starter with
  | none => separate
  | some s =>
    if c.behind.isEmpty || (c.lastClass != 0 && c.lastClass < cls) then
      match composePair? s n with
      | some whole => { c with starter := some whole }
      | none => separate
    else separate

def composedForm (text : List Char) : List Char :=
  let ordered := orderMarks (text.flatMap fun c => decompose c.toNat)
  (ordered.foldl Composition.add ⟨[], none, [], 0⟩).toList.map Char.ofNat

end FormatterModules.Unicode
