namespace FormatterModules.Toml

/-- A value. Floating point numbers and dates keep their text. -/
inductive Value
  | string (s : String)
  | integer (n : Int)
  | float (text : String)
  | boolean (b : Bool)
  | date (text : String)
  | array (items : List Value)
  | table (entries : List (String × Value))
  deriving Repr

namespace Value

def text? : Value → Option String
  | string s => some s
  | _ => none

def natural? : Value → Option Nat
  | integer (.ofNat n) => some n
  | _ => none

def items? : Value → Option (List Value)
  | array items => some items
  | _ => none

def texts? (v : Value) : Option (List String) := v.items?.bind fun items => items.mapM text?

def fields? (names : List String) : Value → Option (List (Option Value))
  | table entries =>
    if entries.all fun e => names.contains e.1 then
      some (names.map fun name => entries.lookup name)
    else none
  | array items => some ((List.range names.length).map fun i => items[i]?)
  | _ => none

end Value

def required (read : Value → Option α) (v? : Option Value) : Option α := v?.bind read

def withDefault (default : α) (read : Value → Option α) : Option Value → Option α
  | some v => read v
  | none => some default

def optional (read : Value → Option α) : Option Value → Option (Option α)
  | some v => (read v).map some
  | none => some none

end FormatterModules.Toml
