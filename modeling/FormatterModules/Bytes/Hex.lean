import FormatterModules.Text.Number

namespace FormatterModules.Bytes

open FormatterModules.Text

def hexPair (b : UInt8) : List Char := [hexDigit (b.toNat / 16), hexDigit (b.toNat % 16)]

def toHex (bytes : List UInt8) : String := String.ofList (bytes.flatMap hexPair)

def ofHexList? : List Char → Option (List UInt8)
  | [] => some []
  | [_] => none
  | a :: b :: rest =>
    (hexValue? a).bind fun x => (hexValue? b).bind fun y =>
      (ofHexList? rest).map (UInt8.ofNat (16 * x + y) :: ·)

def ofHex? (s : String) : Option ByteArray := (ofHexList? s.toList).map fun bs => ⟨bs.toArray⟩

end FormatterModules.Bytes
