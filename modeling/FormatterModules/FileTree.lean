import FormatterModules.Bytes.Utf8
import FormatterModules.Ordered.Map
import FormatterModules.Path
import FormatterModules.SystemError
import FormatterModules.Text.Number

namespace FormatterModules

/-- What stands at a place of the tree. -/
inductive FileNode
  | file (content : ByteArray)
  /-- A file that may be neither read nor written. -/
  | locked (content : ByteArray)
  | directory

namespace FileNode

def isDirectory : FileNode → Bool
  | directory => true
  | _ => false

end FileNode

abbrev Place := List String

/-- A tree of files. Every place with a node lies in directories of the tree. -/
structure FileTree where
  workingDirectory : Place
  nodes : OrderedMap Place FileNode

namespace FileTree

def node? (t : FileTree) (place : Place) : Option FileNode :=
  if place.isEmpty then some .directory else t.nodes.get? place

def hasDirectory (t : FileTree) (place : Place) : Bool := (t.node? place).any FileNode.isDirectory

def put (t : FileTree) (place : Place) (node : FileNode) : FileTree :=
  { t with nodes := t.nodes.insert place node }

def putDirectories (t : FileTree) (place : Place) : FileTree :=
  { t with
    nodes := (List.range place.length).foldl
      (fun nodes i => nodes.insertIfNew (place.take (i + 1)) .directory) t.nodes }

def empty (workingDirectory : Place) : FileTree :=
  putDirectories ⟨workingDirectory, .empty⟩ workingDirectory

def nameLimit : Nat := 255

def pathLimit : Nat := 4095

def step (t : FileTree) (place : Place) (piece : List Char) : Except SystemError Place :=
  if !t.hasDirectory place then .error (if (t.node? place).isSome then .notADirectory else .notFound)
  else if Path.isSkipped piece then .ok place
  else if piece == ['.', '.'] then .ok place.dropLast
  else
    let name := String.ofList piece
    if nameLimit < name.utf8ByteSize then .error .nameTooLong else .ok (place ++ [name])

def place (t : FileTree) (p : Path) : Except SystemError Place :=
  if p.text.toList.contains '\x00' then .error .nullInPath
  else if p.text.isEmpty then .error .notFound
  else if pathLimit < p.text.utf8ByteSize then .error .nameTooLong
  else p.pieces.foldlM t.step (if p.isAbsolute then [] else t.workingDirectory)

def find (t : FileTree) (p : Path) : Except SystemError FileNode :=
  match t.place p with
  | .error e => .error e
  | .ok place =>
    match t.node? place with
    | some node => .ok node
    | none => .error .notFound

def isFile (t : FileTree) (p : Path) : Bool :=
  match t.find p with
  | .ok node => !node.isDirectory
  | .error _ => false

def read (t : FileTree) (p : Path) : Except SystemError ByteArray :=
  match t.find p with
  | .error e => .error e
  | .ok .directory => .error .isADirectory
  | .ok (.locked _) => .error .permissionDenied
  | .ok (.file content) => .ok content

def readText (t : FileTree) (p : Path) : Except SystemError String :=
  match t.read p with
  | .error e => .error e
  | .ok content =>
    match Bytes.decodeUtf8? content with
    | some text => .ok text
    | none => .error .invalidUtf8

def write (t : FileTree) (p : Path) (content : ByteArray) : Except SystemError FileTree :=
  match t.place p with
  | .error e => .error e
  | .ok place =>
    if t.hasDirectory place then .error .isADirectory
    else if !t.hasDirectory place.dropLast then .error .notFound
    else
      match t.node? place with
      | some (.locked _) => .error .permissionDenied
      | _ => .ok (t.put place (.file content))

def putDirectory (t : FileTree) (place : Place) : FileTree :=
  match t.node? place with
  | some _ => t
  | none => t.put place .directory

/-- Makes the directories that the pieces of a path name, one after another, and tells where they
lead. Where this ends at a piece, the directories before it stay. -/
def makeAlong (t : FileTree) (place : Place) : List (List Char) → Except SystemError Place × FileTree
  | [] => (.ok place, t)
  | piece :: rest =>
    match t.step place piece with
    | .error e => (.error e, t)
    | .ok next => makeAlong (t.putDirectory next) next rest

def ensureDirectories (t : FileTree) (p : Path) : Except SystemError Unit × FileTree :=
  if p.text.toList.contains '\x00' then (.error .nullInPath, t)
  else if pathLimit < p.text.utf8ByteSize then (.error .nameTooLong, t)
  else
    match t.makeAlong (if p.isAbsolute then [] else t.workingDirectory) p.pieces with
    | (.error e, made) => (.error e, made)
    | (.ok place, made) => (if made.hasDirectory place then .ok () else .error .fileExists, made)

def makeDirectories (t : FileTree) (p : Path) : Except SystemError FileTree :=
  match t.ensureDirectories p with
  | (.error e, _) => .error e
  | (.ok (), made) => .ok made

def erase (t : FileTree) (place : Place) : FileTree := { t with nodes := t.nodes.erase place }

def temporaryLimit : Nat := 65536

def temporaryName (n : Nat) : String := ".tmp" ++ String.ofList (Text.decimal n)

/-- Writes a new file into a directory, under the first name from a number on that is free, and tells
where it stands. -/
def writeTemporary (t : FileTree) (directory : Path) (content : ByteArray) (n : Nat) :
    Nat → Except SystemError (Place × FileTree)
  | 0 => .error .fileExists
  | tries + 1 =>
    match t.place (directory.joinText (temporaryName n)) with
    | .error e => .error e
    | .ok place =>
      if (t.node? place).isSome then writeTemporary t directory content (n + 1) tries
      else .ok (place, t.put place (.file content))

def move (t : FileTree) (source : Place) (p : Path) : Except SystemError FileTree :=
  match t.place p with
  | .error e => .error e
  | .ok target =>
    if t.hasDirectory target then .error .isADirectory
    else
      match t.node? source with
      | none | some .directory => .error .notFound
      | some node => .ok ((t.erase source).put target node)

def remove? (t : FileTree) (p : Path) : Option FileTree :=
  match t.place p with
  | .error _ => none
  | .ok place =>
    match t.node? place with
    | none | some .directory => none
    | some _ => some (t.erase place)

def list (t : FileTree) (p : Path) : List String :=
  match t.place p with
  | .error _ => []
  | .ok place =>
    if t.hasDirectory place then
      t.nodes.keys.filterMap fun key => if key.dropLast = place then key.getLast? else none
    else []

def contents (t : FileTree) : List ByteArray :=
  t.nodes.toList.filterMap fun e => match e.2 with
    | .file content => some content
    | _ => none

end FileTree

end FormatterModules
