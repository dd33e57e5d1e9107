import FormatterModules.Json.Value
import FormatterModules.Text.Quoted

namespace FormatterModules.Json

/-- Why a value is not of the expected form. -/
inductive DecodeError
  | type (found : Json) (expected : String)
  | length (found : Nat) (expected : String)
  | missingField (name : String)
  | duplicateField (name : String)
  | unknownField (name : String) (known : List String)
  | malformed (text : String)

def tick (s : String) : String := String.ofList [Char.ofNat 0x60] ++ s ++ String.ofList [Char.ofNat 0x60]

def describe : Json → String
  | null => "null"
  | boolean true => "boolean " ++ tick "true"
  | boolean false => "boolean " ++ tick "false"
  | number (.integer n) => "integer " ++ tick (String.ofList (JsonNumber.renderInteger n))
  | number (.float x) => "floating point " ++ tick (String.ofList (JsonNumber.renderFloat x))
  | string s => "string " ++ Text.quoted s
  | array _ => "sequence"
  | object _ => "map"

def alternatives : List String → String
  | [] => "there are no fields"
  | [a] => "expected " ++ tick a
  | [a, b] => "expected " ++ tick a ++ " or " ++ tick b
  | names => "expected one of " ++ Text.join ", " (names.map tick)

def DecodeError.message : DecodeError → String
  | type found expected => "invalid type: " ++ found.describe ++ ", expected " ++ expected
  | length found expected =>
    "invalid length " ++ String.ofList (Text.decimal found) ++ ", expected " ++ expected
  | missingField name => "missing field " ++ tick name
  | duplicateField name => "duplicate field " ++ tick name
  | unknownField name known => "unknown field " ++ tick name ++ ", " ++ alternatives known
  | malformed text => text

def toText : Json → Except DecodeError String
  | string s => .ok s
  | j => .error (.type j "a string")

def readAll (read : Json → Except DecodeError α) : List Json → Except DecodeError (List α)
  | [] => .ok []
  | j :: rest =>
    match read j with
    | .error e => .error e
    | .ok a => (readAll read rest).map (a :: ·)

def toList (read : Json → Except DecodeError α) : Json → Except DecodeError (List α)
  | array items => readAll read items
  | j => .error (.type j "a sequence")

def recordLength (name : String) (size : Nat) : String :=
  "struct " ++ name ++ " with " ++ String.ofList (Text.decimal size) ++
    (if size == 1 then " element" else " elements")

abbrev Slot (α : Type) := Option α

def fill (name : String) (read : Json → Except DecodeError α) (slot : Slot α) (j : Json) :
    Except DecodeError (Slot α) :=
  match slot with
  | some _ => .error (.duplicateField name)
  | none => (read j).map some

def require (name : String) : Slot α → Except DecodeError α
  | some a => .ok a
  | none => .error (.missingField name)

/-- Reads the next item of an array that holds the fields of a record in order. -/
def next (read : Json → Except DecodeError α) (absent : Except DecodeError α) :
    List Json → Except DecodeError (α × List Json)
  | [] => absent.map fun a => (a, [])
  | j :: rest => (read j).map fun a => (a, rest)

def finish (size : Nat) : List Json → Except DecodeError Unit
  | [] => .ok ()
  | _ => .error (.length size "fewer elements in array")

end FormatterModules.Json
