import FormatterModules.Failure

namespace FormatterModules

inductive Attempt (α : Type) (ε : Type := Failure)
  | ok (result : α)
  | failed (failure : ε)
  /-- The call broke off without a result. -/
  | panicked
  deriving DecidableEq, Repr

def Attempt.ofExcept {α ε : Type} : Except ε α → Attempt α ε
  | .ok result => .ok result
  | .error e => .failed e

end FormatterModules
