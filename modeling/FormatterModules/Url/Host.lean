import FormatterModules.Bytes.Utf8
import FormatterModules.Url.Domain
import FormatterModules.Url.Error
import FormatterModules.Url.Ipv4
import FormatterModules.Url.Ipv6
import FormatterModules.Url.Percent

namespace FormatterModules.Url

/-- A host. -/
inductive Host
  | domain (name : String)
  | ipv4 (address : Nat)
  | ipv6 (pieces : List Nat)
  deriving DecidableEq, Repr

namespace Host

def render : Host → String
  | domain name => name
  | ipv4 address => String.ofList (renderIpv4 address)
  | ipv6 pieces => String.ofList (['['] ++ renderIpv6 pieces ++ [']'])

def ofBracketed (s : List Char) : Except Error Host :=
  if s.getLast? == some ']' && 2 ≤ s.length then
    match ipv6? (s.drop 1).dropLast with
    | some pieces => .ok (.ipv6 pieces)
    | none => .error .invalidIpv6
  else .error .invalidIpv6

def ofText (s : List Char) : Except Error Host :=
  if s.head? == some '[' then ofBracketed s
  else
    let decoded := Bytes.decodeLossyList (percentDecode s)
    match domainToAscii? decoded with
    | none => .error .invalidDomainName
    | some [] => .error .emptyHost
    | some name =>
      if endsInNumber name then
        match ipv4? name with
        | some address => .ok (.ipv4 address)
        | none => .error .invalidIpv4
      else .ok (.domain (String.ofList name))

def isForbidden (c : Char) : Bool :=
  ['\x00', '\t', '\n', '\r', ' ', '#', '/', ':', '<', '>', '?', '@', '[', '\\', ']', '^', '|'].contains c

def ofPlainText (s : List Char) : Except Error Host :=
  if s.head? == some '[' then ofBracketed s
  else if s.any isForbidden then .error .invalidHostCharacter
  else .ok (.domain (String.ofList (percentEncode isControlOrForeign s)))

end Host

end FormatterModules.Url
