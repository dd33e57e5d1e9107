namespace FormatterModules.Text

def digitValue? (c : Char) : Option Nat :=
  if c.isDigit then some (c.toNat - 48) else none

/-- Reads digits on top of a number already read; anything but a digit is refused. -/
def readDigits (acc : Nat) : List Char → Option Nat
  | [] => some acc
  | c :: rest => (digitValue? c).bind fun d => readDigits (10 * acc + d) rest

def readNat? : List Char → Option Nat
  | [] => none
  | digits => readDigits 0 digits

/-- Reads a number below `bound`: decimal digits behind at most one plus sign. -/
def readBelow? (bound : Nat) (s : List Char) : Option Nat :=
  let digits := match s with
    | '+' :: rest => rest
    | _ => s
  (readNat? digits).filter (· < bound)

def decimal (n : Nat) : List Char := Nat.toDigits 10 n

def hexValue? (c : Char) : Option Nat :=
  if c.isDigit then some (c.toNat - 48)
  else if 'a' ≤ c && c ≤ 'f' then some (c.toNat - 87)
  else if 'A' ≤ c && c ≤ 'F' then some (c.toNat - 55)
  else none

def readDigitsOf (base : Nat) (acc : Nat) : List Char → Option Nat
  | [] => some acc
  | c :: rest => ((hexValue? c).filter (· < base)).bind fun d => readDigitsOf base (base * acc + d) rest

def hexDigit (n : Nat) : Char := Nat.digitChar n

def upperHexDigit (n : Nat) : Char := (Nat.digitChar n).toUpper

def hexadecimal (n : Nat) : List Char := Nat.toDigits 16 n

end FormatterModules.Text
