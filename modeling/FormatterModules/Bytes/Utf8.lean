namespace FormatterModules.Bytes

def ofText (s : String) : ByteArray := s.toUTF8

def decodeUtf8? (bytes : ByteArray) : Option String := String.fromUTF8? bytes

def decodeLatin1 (bytes : ByteArray) : String :=
  String.ofList (bytes.data.toList.map fun b => Char.ofNat b.toNat)

def decodeUtf8OrLatin1 (bytes : ByteArray) : String :=
  (decodeUtf8? bytes).getD (decodeLatin1 bytes)

def replacement : Char := Char.ofNat 0xFFFD

def isContinuation (b : UInt8) : Bool := 0x80 ≤ b && b ≤ 0xBF

/-- The bounds of the second byte of a character of three or four bytes. They leave out overlong
forms, surrogates and numbers above the last code point. -/
def secondByteRange (lead : UInt8) : UInt8 × UInt8 :=
  if lead == 0xE0 then (0xA0, 0xBF)
  else if lead == 0xED then (0x80, 0x9F)
  else if lead == 0xF0 then (0x90, 0xBF)
  else if lead == 0xF4 then (0x80, 0x8F)
  else (0x80, 0xBF)

def isSecondByte (lead b : UInt8) : Bool :=
  (secondByteRange lead).1 ≤ b && b ≤ (secondByteRange lead).2

def continuationBits (b : UInt8) : Nat := b.toNat % 64

/-- Takes one character off the bytes: the character and how many bytes after the first belong to
it. An incomplete or impossible character is replaced as far as its bytes could begin one. -/
def decodeStep (lead : UInt8) (rest : List UInt8) : Char × Nat :=
  if lead < 0x80 then (Char.ofNat lead.toNat, 0)
  else if 0xC2 ≤ lead && lead ≤ 0xDF then
    match rest with
    | b :: _ =>
      if isContinuation b then
        (Char.ofNat ((lead.toNat - 0xC0) * 64 + continuationBits b), 1)
      else (replacement, 0)
    | [] => (replacement, 0)
  else if 0xE0 ≤ lead && lead ≤ 0xEF then
    match rest with
    | b :: c :: _ =>
      if !isSecondByte lead b then (replacement, 0)
      else if isContinuation c then
        (Char.ofNat (((lead.toNat - 0xE0) * 64 + continuationBits b) * 64 + continuationBits c), 2)
      else (replacement, 1)
    | [b] => (replacement, if isSecondByte lead b then 1 else 0)
    | [] => (replacement, 0)
  else if 0xF0 ≤ lead && lead ≤ 0xF4 then
    match rest with
    | b :: c :: d :: _ =>
      if !isSecondByte lead b then (replacement, 0)
      else if !isContinuation c then (replacement, 1)
      else if isContinuation d then
        (Char.ofNat ((((lead.toNat - 0xF0) * 64 + continuationBits b) * 64 + continuationBits c) * 64
          + continuationBits d), 3)
      else (replacement, 2)
    | [b, c] =>
      (replacement, if !isSecondByte lead b then 0 else if isContinuation c then 2 else 1)
    | [b] => (replacement, if isSecondByte lead b then 1 else 0)
    | [] => (replacement, 0)
  else (replacement, 0)

def decodeLossyList (bytes : List UInt8) : List Char :=
  match bytes with
  | [] => []
  | lead :: rest =>
    let step := decodeStep lead rest
    step.1 :: decodeLossyList (rest.drop step.2)
termination_by bytes.length
decreasing_by simp only [List.length_cons, List.length_drop]; omega

def decodeLossy (bytes : ByteArray) : String := String.ofList (decodeLossyList bytes.data.toList)

end FormatterModules.Bytes
