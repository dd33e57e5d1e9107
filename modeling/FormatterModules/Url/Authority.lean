import FormatterModules.Url.Separator

namespace FormatterModules.Url

def splitUserinfo (s : List Char) : Option (List Char) × List Char :=
  let host := (s.reverse.takeWhile (· != '@')).reverse
  if host.length < s.length then (some (s.take (s.length - host.length - 1)), host) else (none, s)

def readUserinfo (s : List Char) : String × String :=
  let name := s.takeWhile (· != ':')
  let password := (s.drop name.length).drop 1
  (String.ofList (percentEncode encodedInUserinfo name),
    String.ofList (percentEncode encodedInUserinfo password))

def hostLength (inBrackets : Bool) : List Char → Nat
  | [] => 0
  | c :: rest =>
    if c == ':' && !inBrackets then 0
    else if c == '[' then hostLength true rest + 1
    else if c == ']' then hostLength false rest + 1
    else hostLength inBrackets rest + 1

def readPort? (s : List Char) : Except Error (Option Nat) :=
  if s.isEmpty then .ok none
  else
    match Text.readNat? s with
    | some n => if n < 65536 then .ok (some n) else .error .invalidPort
    | none => .error .invalidPort

/-- What stands between the scheme and the path. -/
structure Authority where
  username : String
  password : String
  host? : Option Host
  port? : Option Nat

def readAuthority (scheme : String) (followed : Bool) (s : List Char) :
    Except Error (Authority × List Char) :=
  let kind := schemeKind scheme
  let (userinfo?, hostPort) := splitUserinfo s
  let (username, password) := match userinfo? with
    | some text => readUserinfo text
    | none => ("", "")
  let hasCredentials := !(username.isEmpty && password.isEmpty)
  let n := hostLength false hostPort
  let hostText := hostPort.take n
  let portText := (hostPort.drop n).takeWhile (· != '\\')
  if hostText.isEmpty && kind == .special then .error .emptyHost
  else if userinfo? == some [] && hostPort.isEmpty && followed then .error .emptyHost
  else
    match (if kind == .ordinary then Host.ofPlainText hostText else Host.ofText hostText) with
    | .error e => .error e
    | .ok host =>
      if hostText.isEmpty && !portText.isEmpty then .error .emptyHost
      else
        match readPort? (portText.drop 1) with
        | .error e => .error e
        | .ok port? =>
          if hostText.isEmpty && hasCredentials then .error .emptyHost
          else
            .ok (⟨username, password, if hostText.isEmpty then none else some host,
              if port? == specialPort? scheme then none else port?⟩,
              hostPort.drop (n + portText.length))

end FormatterModules.Url
