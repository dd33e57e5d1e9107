namespace FormatterModules.Url.Punycode

def digitChar (d : Nat) : Char := Char.ofNat (if d < 26 then 97 + d else 22 + d)

def digitValue? (c : Char) : Option Nat :=
  let n := c.toNat
  if 97 ≤ n && n ≤ 122 then some (n - 97)
  else if 65 ≤ n && n ≤ 90 then some (n - 65)
  else if 48 ≤ n && n ≤ 57 then some (n - 22)
  else none

def threshold (bias k : Nat) : Nat :=
  if k ≤ bias + 1 then 1 else if bias + 26 ≤ k then 26 else k - bias

theorem threshold_pos (bias k : Nat) : 1 ≤ threshold bias k := by
  unfold threshold
  split
  · omega
  · split <;> omega

def shrink (delta k : Nat) : Nat × Nat :=
  if 455 < delta then shrink (delta / 35) (k + 36) else (delta, k)
termination_by delta
decreasing_by omega

def adapt (delta count : Nat) (first : Bool) : Nat :=
  let scaled := if first then delta / 700 else delta / 2
  let (d, k) := shrink (scaled + scaled / count) 0
  k + 36 * d / (d + 38)

def encodeStep (bias k q : Nat) : List Char :=
  let t := threshold bias k
  if q < t then [digitChar q]
  else digitChar (t + (q - t) % (36 - t)) :: encodeStep bias (k + 36) ((q - t) / (36 - t))
termination_by q
decreasing_by
  have h := threshold_pos bias k
  have := Nat.div_le_self (q - threshold bias k) (36 - threshold bias k)
  omega

/-- The state of an encoder: what is written, the step so far, the bias and the number of characters
written. -/
structure Encoder where
  output : List Char
  delta : Nat
  bias : Nat
  written : Nat

def Encoder.pass (basic n : Nat) (e : Encoder) (c : Char) : Encoder :=
  if c.toNat < n then { e with delta := e.delta + 1 }
  else if c.toNat == n then
    { output := e.output ++ encodeStep e.bias 36 e.delta
      delta := 0
      bias := adapt e.delta (e.written + 1) (e.written == basic)
      written := e.written + 1 }
  else e

def encodePoints (text : List Char) (basic : Nat) : List Nat → Nat → Encoder → Encoder
  | [], _, e => e
  | n :: rest, last, e =>
    let advanced := { e with delta := e.delta + (n - last) * (e.written + 1) }
    let passed := text.foldl (Encoder.pass basic n) advanced
    encodePoints text basic rest (n + 1) { passed with delta := passed.delta + 1 }

/-- Puts a number in its place in an ascending list, unless it is there. -/
def insertNumber (n : Nat) : List Nat → List Nat
  | [] => [n]
  | m :: rest =>
    if n < m then n :: m :: rest else if n == m then m :: rest else m :: insertNumber n rest

def encode (text : List Char) : List Char :=
  let basic := text.filter fun c => c.toNat < 0x80
  let points := (text.filter fun c => 0x80 ≤ c.toNat).foldr (fun c ns => insertNumber c.toNat ns) []
  let start : Encoder := ⟨[], 0, 72, basic.length⟩
  basic ++ (if basic.isEmpty then [] else ['-']) ++
    (encodePoints text basic.length points 128 start).output

def stepLimit : Nat := 4294967296

def decodeStep (bias : Nat) : List Char → Nat → Nat → Nat → Option (Nat × List Char)
  | [], _, _, _ => none
  | c :: rest, k, w, i =>
    match digitValue? c with
    | none => none
    | some d =>
      let t := threshold bias k
      if stepLimit ≤ i + d * w then none
      else if d < t then some (i + d * w, rest)
      else if stepLimit ≤ w * (36 - t) then none
      else decodeStep bias rest (k + 36) (w * (36 - t)) (i + d * w)

theorem decodeStep_length {bias : Nat} {s : List Char} {k w i : Nat} {r : Nat × List Char}
    (h : decodeStep bias s k w i = some r) : r.2.length < s.length := by
  induction s generalizing k w i with
  | nil => simp [decodeStep] at h
  | cons c rest ih =>
    unfold decodeStep at h
    split at h
    · simp at h
    · dsimp only at h
      split at h
      · simp at h
      · split at h
        · cases h; simp
        · split at h
          · simp at h
          · have := ih h
            simp only [List.length_cons]
            omega

def decodeSteps (bias n i : Nat) (text : List Char) (digits : List Char) : Option (List Char) :=
  if digits = [] then some text
  else
    match _h : decodeStep bias digits 36 1 i with
    | none => none
    | some (sum, rest) =>
      let count := text.length + 1
      let point := n + sum / count
      let position := sum % count
      if point < 0xD800 || (0xDFFF < point && point < 0x110000) then
        decodeSteps (adapt (sum - i) count (i == 0)) point (position + 1)
          (text.take position ++ Char.ofNat point :: text.drop position) rest
      else none
termination_by digits.length
decreasing_by exact decodeStep_length _h

/-- The parts before and after the last hyphen. Without one that has something before it, all is the
second part. -/
def splitLastHyphen (s : List Char) : List Char × List Char :=
  let after := (s.reverse.takeWhile (· != '-')).reverse
  let before := s.take (s.length - after.length - 1)
  if before.isEmpty then ([], s) else (before, after)

def decode (s : List Char) : Option (List Char) :=
  let (basic, digits) := splitLastHyphen s
  if basic.all fun c => c.toNat < 0x80 then decodeSteps 72 128 0 basic digits else none

end FormatterModules.Url.Punycode
