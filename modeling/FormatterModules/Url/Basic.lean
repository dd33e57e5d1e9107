import FormatterModules.Path
import FormatterModules.Url.Host

namespace FormatterModules

/-- A URL in its normal form. The parts hold the encoded text. -/
structure Url where
  scheme : String
  username : String
  password : String
  host? : Option Url.Host
  port? : Option Nat
  path : String
  query? : Option String
  fragment? : Option String
  deriving DecidableEq, Repr

namespace Url

def specialPort? : String → Option Nat
  | "http" => some 80
  | "https" => some 443
  | "ws" => some 80
  | "wss" => some 443
  | "ftp" => some 21
  | _ => none

/-- How a scheme is treated. -/
inductive SchemeKind
  | file
  | special
  | ordinary
  deriving DecidableEq, Repr

def schemeKind (scheme : String) : SchemeKind :=
  if scheme == "file" then .file
  else if (specialPort? scheme).isSome then .special
  else .ordinary

def userinfo (u : Url) : String :=
  if u.username.isEmpty && u.password.isEmpty then ""
  else if u.password.isEmpty then u.username ++ "@"
  else u.username ++ ":" ++ u.password ++ "@"

def authority (u : Url) : String :=
  match u.host? with
  | none => if u.scheme == "file" then "//" else ""
  | some host =>
    let port := match u.port? with
      | some n => ":" ++ String.ofList (Text.decimal n)
      | none => ""
    "//" ++ u.userinfo ++ host.render ++ port

def hrefWithoutFragment (u : Url) : String :=
  let query := match u.query? with
    | some q => "?" ++ q
    | none => ""
  u.scheme ++ ":" ++ u.authority ++ u.path ++ query

def href (u : Url) : String :=
  match u.fragment? with
  | some f => u.hrefWithoutFragment ++ "#" ++ f
  | none => u.hrefWithoutFragment

instance : ToString Url := ⟨href⟩

def hostText? (u : Url) : Option String := u.host?.map Host.render

def segments (u : Url) : List (List Char) := Text.splitOn '/' (u.path.toList.drop 1)

def lastSegment? (u : Url) : Option String :=
  (u.segments.getLast?.filter fun s => !s.isEmpty).map String.ofList

def endsInDrive (bytes : List UInt8) : Bool :=
  match bytes.reverse with
  | mark :: letter :: _ :: _ =>
    (mark == 0x3A || mark == 0x7C) && (Char.ofNat letter.toNat).isAlpha
  | _ => false

def filePathBytes? (u : Url) : Option (List UInt8) :=
  if u.host?.isSome then none
  else
    let bytes := u.segments.flatMap fun s => 0x2F :: percentDecode s
    some (if endsInDrive bytes then bytes ++ [0x2F] else bytes)

end Url

end FormatterModules
