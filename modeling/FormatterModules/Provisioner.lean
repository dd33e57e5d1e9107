import FormatterModules.Environment
import FormatterModules.Failure
import FormatterModules.Repository

namespace FormatterModules

/-- Turns a set of coordinates into the places of all their artifacts. -/
structure Provisioner where
  provision : OrderedSet Coordinate → Environment →
    Except Failure (OrderedSet Path) × Environment

namespace Provisioner

def resolveAll (r : Repository) (files : FileTree) (found : OrderedSet Path) :
    List Coordinate → Except Failure (OrderedSet Path)
  | [] => .ok found
  | c :: rest =>
    match r.closure files c with
    | .error e => .error e
    | .ok locations => resolveAll r files (found.union locations) rest

def ofRepository (r : Repository) (flag? : Option StopFlag) : Provisioner where
  provision coordinates env :=
    if env.isStopped flag? && !coordinates.isEmpty then (.error .interrupted, env)
    else (resolveAll r env.files .empty coordinates.toList, env)

def fixed (locations : OrderedSet Path) : Provisioner where
  provision _ env := (.ok locations, env)

def metered (meter : String) (failures : Nat) (failure : Failure) (inner : Provisioner) :
    Provisioner where
  provision coordinates env :=
    if env.count meter < failures then (.error failure, env.tick meter)
    else inner.provision coordinates (env.tick meter)

end Provisioner

end FormatterModules
