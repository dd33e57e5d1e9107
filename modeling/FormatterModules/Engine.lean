import FormatterModules.Attempt
import FormatterModules.Preferences
import FormatterModules.Text.Size

namespace FormatterModules

structure EngineError where
  message : String
  deriving DecidableEq, Repr

/-- An engine formats a text, refuses it, or breaks off. -/
abbrev Engine := String → Attempt String EngineError

abbrev EngineConstructor := Preferences → Except EngineError Engine

namespace Engine

/-- The engine of a function that breaks off unless the text fits. -/
def guarded (fits : List Char → Bool) (format : List Char → List Char) : Engine :=
  fun s => if fits s.toList then .ok (String.ofList (format s.toList)) else .panicked

def ofTotal (format : List Char → List Char) : Engine := guarded (fun _ => true) format

end Engine

end FormatterModules
