namespace FormatterModules

/-- The name of a flag. Everyone who holds the same name sees the same flag. -/
structure StopFlag where
  name : String
  deriving DecidableEq, Repr

end FormatterModules
