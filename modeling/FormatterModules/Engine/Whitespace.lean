import FormatterModules.Engine
import FormatterModules.Text.Blank
import FormatterModules.Text.Lines

namespace FormatterModules.Engine

def stripLines (text : List Char) : List Char := Text.mapContents Text.trimEnd text

def trailingWhitespace : EngineConstructor := fun _ => .ok (ofTotal stripLines)

/-- Strips the blanks at the end of the text and puts one line feed there. A text of blanks becomes
empty. -/
def endLine (text : List Char) : List Char :=
  match Text.trimEnd text with
  | [] => []
  | trimmed => trimmed ++ ['\n']

def endWithNewline : EngineConstructor := fun _ =>
  .ok (guarded (fun text => Text.byteSize (endLine text) ≤ Text.maxByteSize) endLine)

end FormatterModules.Engine
