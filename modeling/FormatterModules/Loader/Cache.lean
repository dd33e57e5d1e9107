import FormatterModules.Loader

namespace FormatterModules

/-- A cache of loaders over one table of engines. It only grows. -/
structure LoaderCache where
  engines : EngineTable
  /-- The loaders, the latest first. -/
  loaders : List ModuleLoader
  /-- The number of the next loader. It never starts over, see `LoaderId`. -/
  nextNumber : Nat

namespace LoaderCache

def ofEngines (engines : EngineTable) : LoaderCache := ⟨engines, [], 1⟩

def find? (cache : LoaderCache) (key : LoaderKey) : Option ModuleLoader :=
  cache.loaders.find? fun l => l.key = key

def takeNumber (cache : LoaderCache) : LoaderId × LoaderCache :=
  (⟨cache.nextNumber⟩, { cache with nextNumber := cache.nextNumber + 1 })

def make (cache : LoaderCache) (id : LoaderId) (artifacts : ArtifactSet) (shared : SharedNames) :
    Except Failure ModuleLoader × LoaderCache :=
  match ModuleLoader.ofArtifacts id cache.engines artifacts shared with
  | .error e => (.error e, cache)
  | .ok l => (.ok l, { cache with loaders := l :: cache.loaders })

def build (cache : LoaderCache) (artifacts : ArtifactSet) (shared : SharedNames) :
    Except Failure ModuleLoader × LoaderCache :=
  let (id, cache) := cache.takeNumber
  cache.make id artifacts shared

def obtain (cache : LoaderCache) (artifacts : ArtifactSet) (shared : SharedNames) :
    Except Failure ModuleLoader × LoaderCache :=
  match cache.find? (.of artifacts shared) with
  | some l => (.ok l, cache)
  | none => cache.build artifacts shared

def size (cache : LoaderCache) : Nat := cache.loaders.length

def isEmpty (cache : LoaderCache) : Bool := cache.loaders.isEmpty

def inspect (cache : LoaderCache) : String :=
  Text.record "LoaderCache"
    [("linker", cache.engines.inspect),
      ("constructed", String.ofList (Text.decimal cache.size))]

end LoaderCache

end FormatterModules
