import FormatterModules.Network.Status
import FormatterModules.Ordered.Map
import FormatterModules.Url.Reference

namespace FormatterModules

structure Response where
  status : Nat
  /-- The body, or why it does not arrive. -/
  body : Except String ByteArray
  location? : Option String := none

/-- What the servers answer, and the requests they saw. -/
structure Network where
  isOnline : Bool
  /-- Encrypted connections are established. A proxy that establishes none sees which hosts are asked
  for. -/
  allowsEncryption : Bool
  responses : OrderedMap String Response
  /-- The requests, the latest last. -/
  log : List String

namespace Network

def offline : Network := ⟨false, false, .empty, []⟩

def missing : Response := { status := 404, body := .ok .empty }

def serve (n : Network) (url : String) (response : Response) : Network :=
  { n with responses := n.responses.insert url response }

def isEncodedUtf8 (s : String) : Bool :=
  (Bytes.decodeUtf8? ⟨(Url.percentDecode s.toList).toArray⟩).isSome

def hasCredentials (url : Url) : Bool :=
  isEncodedUtf8 url.username &&
    (!url.username.isEmpty || (!url.password.isEmpty && isEncodedUtf8 url.password))

def shown (url : Url) : String :=
  if hasCredentials url then { url with username := "", password := "" }.href else url.href

def unreachable (url : Url) : String := "error sending request for url (" ++ shown url ++ ")"

def malformed (url : Url) : String := "builder error for url (" ++ shown url ++ ")"

def isRefusedInHost (c : Char) : Bool := [0x22, 0x60, 0x7B, 0x7D].contains c.toNat

def longestRequest : Nat := 65534

def canBeRequested (url : Url) : Bool :=
  !((url.hostText?.getD "").toList.any isRefusedInHost) && (shown url).utf8ByteSize ≤ longestRequest

def tooManyRedirects (url : Url) : String :=
  "error following redirect for url (" ++ shown url ++ ")"

def connectLine (url : Url) : String :=
  let port := (url.port?.or (Url.specialPort? url.scheme)).getD 0
  "CONNECT " ++ url.hostText?.getD "" ++ ":" ++ String.ofList (Text.decimal port)

def send (n : Network) (url : Url) : Except String Response × Network :=
  if !canBeRequested url then (.error (malformed url), n)
  else if !n.isOnline then (.error (unreachable url), n)
  else if url.scheme == "https" && !n.allowsEncryption then
    (.error (unreachable url), { n with log := n.log ++ [connectLine url] })
  else
    let target := url.hrefWithoutFragment
    (.ok ((n.responses.get? target).getD missing), { n with log := n.log ++ ["GET " ++ target] })

def redirect? (url : Url) (response : Response) : Option Url :=
  if isRedirect response.status then
    response.location?.bind fun location => (Url.resolve url location).toOption
  else none

def redirectLimit : Nat := 10

def isWeb (url : Url) : Bool := url.scheme == "http" || url.scheme == "https"

def wrongScheme (target : Url) : String := "builder error for url (" ++ target.href ++ ")"

def follow (limit : Nat) (n : Network) (url : Url) : Except String Response × Network :=
  match n.send url with
  | (.error e, n) => (.error e, n)
  | (.ok response, n) =>
    match redirect? url response, limit with
    | none, _ => (.ok response, n)
    | some _, 0 => (.error (tooManyRedirects url), n)
    | some target, limit + 1 =>
      if isWeb target then follow limit n target else (.error (wrongScheme target), n)

def get (n : Network) (url : Url) : Except String Response × Network := follow redirectLimit n url

end Network

end FormatterModules
