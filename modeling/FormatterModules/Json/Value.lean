import FormatterModules.Json.Number
import FormatterModules.Text.Lines

namespace FormatterModules

/-- A JSON value. Objects keep the order of their members. -/
inductive Json
  | null
  | boolean (b : Bool)
  | number (n : JsonNumber)
  | string (s : String)
  | array (items : List Json)
  | object (members : List (String × Json))
  deriving Repr, Inhabited

namespace Json

open FormatterModules.Text

def escapeChar (c : Char) : List Char :=
  if c == '"' || c == '\\' then ['\\', c]
  else if c == '\x08' then ['\\', 'b']
  else if c == '\x0c' then ['\\', 'f']
  else if c == '\n' then ['\\', 'n']
  else if c == '\r' then ['\\', 'r']
  else if c == '\t' then ['\\', 't']
  else if c.toNat < 0x20 then
    ['\\', 'u', '0', '0', hexDigit (c.toNat / 16), hexDigit (c.toNat % 16)]
  else [c]

def renderString (s : String) : List Char := ['"'] ++ s.toList.flatMap escapeChar ++ ['"']

mutual

def renderChars : Json → List Char
  | null => ['n', 'u', 'l', 'l']
  | boolean true => ['t', 'r', 'u', 'e']
  | boolean false => ['f', 'a', 'l', 's', 'e']
  | number n => n.render
  | string s => renderString s
  | array items => '[' :: renderItems items
  | object members => '\x7b' :: renderMembers members

def renderItems : List Json → List Char
  | [] => [']']
  | [item] => item.renderChars ++ [']']
  | item :: rest => item.renderChars ++ [','] ++ renderItems rest

def renderMembers : List (String × Json) → List Char
  | [] => ['\x7d']
  | [(name, v)] => renderString name ++ [':'] ++ v.renderChars ++ ['\x7d']
  | (name, v) :: rest => renderString name ++ [':'] ++ v.renderChars ++ [','] ++ renderMembers rest

end

def render (j : Json) : String := String.ofList j.renderChars

end Json

end FormatterModules
