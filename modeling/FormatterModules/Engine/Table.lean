import FormatterModules.Engine.ImportOrder
import FormatterModules.Engine.Indent
import FormatterModules.Engine.Whitespace

namespace FormatterModules

/-- The engine constructors of a host, by entry. -/
structure EngineTable where
  constructors : OrderedMap String EngineConstructor

namespace EngineTable

def empty : EngineTable := ⟨.empty⟩

def register (engines : EngineTable) (entry : String) (make : EngineConstructor) : EngineTable :=
  ⟨engines.constructors.insert entry make⟩

def find? (engines : EngineTable) (entry : String) : Option EngineConstructor :=
  engines.constructors.get? entry

def entries (engines : EngineTable) : List String := engines.constructors.keys

def builtins : EngineTable :=
  (((empty.register "trailing-whitespace" Engine.trailingWhitespace).register
    "end-with-newline" Engine.endWithNewline).register
    "indent" Engine.indent).register "import-order" Engine.importOrder

def inspect (engines : EngineTable) : String :=
  Text.record "EngineLinker" [("entries", Text.bracketed (engines.entries.map Text.quoted))]

end EngineTable

end FormatterModules
