import FormatterModules.StopFlag
import FormatterModules.FileTree
import FormatterModules.Network

namespace FormatterModules

structure Environment where
  files : FileTree
  network : Network
  raised : List StopFlag
  meters : OrderedMap String Nat
  /-- The directory of the system for temporary files. -/
  temporaryDirectory : Path

namespace Environment

def ofFiles (files : FileTree) (temporaryDirectory : Path) : Environment where
  files
  network := .offline
  raised := []
  meters := .empty
  temporaryDirectory

def raise (env : Environment) (flag : StopFlag) : Environment :=
  { env with raised := flag :: env.raised }

def lower (env : Environment) (flag : StopFlag) : Environment :=
  { env with raised := env.raised.filter (· ≠ flag) }

def isRaised (env : Environment) (flag : StopFlag) : Bool :=
  env.raised.contains flag

def isStopped (env : Environment) (flag? : Option StopFlag) : Bool :=
  flag?.any env.isRaised

def count (env : Environment) (meter : String) : Nat := (env.meters.get? meter).getD 0

def tick (env : Environment) (meter : String) : Environment :=
  { env with meters := env.meters.insert meter (env.count meter + 1) }

end Environment

end FormatterModules
