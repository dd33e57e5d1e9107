import FormatterModules.FileTree
import FormatterModules.Preferences

namespace FormatterModules.Preferences

def notFound (path : Path) : Failure :=
  .illegalArgument ("Preferences file not found: " ++ path.text)

/-- Reads one file. Text that is no UTF-8 is taken for Latin-1. -/
def load (files : FileTree) (path : Path) : Except Failure Preferences :=
  if files.isFile path then
    match files.read path with
    | .error e => .error (.io e)
    | .ok content => parse path.text (Bytes.decodeUtf8OrLatin1 content)
  else .error (notFound path)

def readFilesOnto (files : FileTree) (p : Preferences) : List Path → Except Failure Preferences
  | [] => .ok p
  | path :: rest =>
    match load files path with
    | .error e => .error e
    | .ok q => readFilesOnto files (p.merge q) rest

def readFiles (files : FileTree) (paths : List Path) : Except Failure Preferences :=
  readFilesOnto files empty paths

end FormatterModules.Preferences
