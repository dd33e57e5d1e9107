import FormatterModules.Bytes.Hex
import FormatterModules.Bytes.Utf8

namespace FormatterModules.Url

open FormatterModules.Text

/-- Control characters and all characters outside ASCII; they are encoded in every part. -/
def isControlOrForeign (c : Char) : Bool := c.toNat < 0x20 || 0x7F ≤ c.toNat

def encodedInFragment (c : Char) : Bool :=
  isControlOrForeign c || [' ', '"', '<', '>', (Char.ofNat 0x60)].contains c

def encodedInQuery (c : Char) : Bool :=
  isControlOrForeign c || [' ', '"', '#', '<', '>'].contains c

def encodedInSpecialQuery (c : Char) : Bool := encodedInQuery c || c == '\''

def encodedInPath (c : Char) : Bool :=
  encodedInFragment c || ['#', '?', '\x7b', '\x7d'].contains c

def encodedInUserinfo (c : Char) : Bool :=
  encodedInPath c || ['/', ':', ';', '=', '@', '[', '\\', ']', '^', '|'].contains c

def percentByte (b : UInt8) : List Char :=
  ['%', upperHexDigit (b.toNat / 16), upperHexDigit (b.toNat % 16)]

def percentChar (c : Char) : List Char :=
  (Bytes.ofText (String.singleton c)).data.toList.flatMap percentByte

def percentEncode (encoded : Char → Bool) (s : List Char) : List Char :=
  s.flatMap fun c => if encoded c then percentChar c else [c]

/-- Decodes percent signs that stand before two hexadecimal digits; all else stays. -/
def percentDecodeBytes : List UInt8 → List UInt8
  | [] => []
  | [a] => [a]
  | [a, b] => [a, b]
  | a :: b :: c :: rest =>
    match a == 0x25, hexValue? (Char.ofNat b.toNat), hexValue? (Char.ofNat c.toNat) with
    | true, some h, some l => UInt8.ofNat (16 * h + l) :: percentDecodeBytes rest
    | _, _, _ => a :: percentDecodeBytes (b :: c :: rest)

def percentDecode (s : List Char) : List UInt8 :=
  percentDecodeBytes (Bytes.ofText (String.ofList s)).data.toList

end FormatterModules.Url
