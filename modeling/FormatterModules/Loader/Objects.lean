import FormatterModules.Loader.Threads

namespace FormatterModules

/-- A class as an object. No two objects of a cache have the same number. -/
structure ClassObject where
  number : Nat
  contents : ModuleClass

abbrev ObjectMap := OrderedMap String ClassObject

/-- The objects of a cache: those of the host, and how many were made in all. -/
structure ClassObjects where
  host : ObjectMap
  count : Nat

namespace ClassObjects

def initial : ClassObjects := ⟨.empty, 0⟩

def make (objects : ClassObjects) (c : ModuleClass) : ClassObject × ClassObjects :=
  (⟨objects.count, c⟩, { objects with count := objects.count + 1 })

def ofHost (objects : ClassObjects) (name : String) : ClassObject × ClassObjects :=
  match objects.host.get? name with
  | some o => (o, objects)
  | none =>
    let (o, objects) := objects.make (.ofHost name)
    (o, { objects with host := objects.host.insert name o })

def shareName (s : ObjectMap × ClassObjects) (name : String) : ObjectMap × ClassObjects :=
  let (o, objects) := s.2.ofHost name
  (s.1.insert name o, objects)

def share (objects : ClassObjects) (shared : SharedNames) : ObjectMap × ClassObjects :=
  shared.toList.foldl shareName (.empty, objects)

def addClass (shared : ObjectMap) (s : ObjectMap × ClassObjects) (c : ModuleClass) :
    ObjectMap × ClassObjects :=
  if shared.contains c.name || s.1.contains c.name then s
  else
    let (o, objects) := s.2.make c
    (s.1.insert c.name o, objects)

/-- Makes the objects of the classes that artifacts declare, one artifact after the other, and stops
at the first that is malformed. -/
def define (id : LoaderId) (engines : EngineTable) (shared : ObjectMap) :
    List Artifact → ObjectMap × ClassObjects → Except Failure ObjectMap × ClassObjects
  | [], s => (.ok s.1, s.2)
  | a :: rest, s =>
    match Manifest.parse a.location.text a.content with
    | .error e => (.error e, s.2)
    | .ok m =>
      let classes := m.classes.map (ModuleLoader.classOf id engines a.identity.fileName)
      define id engines shared rest (classes.foldl (addClass shared) s)

end ClassObjects

/-- A loader: the objects of the classes it defines, and those of the host that it shares. -/
structure ObjectLoader where
  id : LoaderId
  key : LoaderKey
  origins : List String
  classes : ObjectMap
  shared : ObjectMap

namespace ObjectLoader

def classNames (l : ObjectLoader) : List String := l.classes.keys

/-- The loader shares a name with the host. -/
def Shares (l : ObjectLoader) (name : String) : Prop := l.key.shared.contains name = true

instance (l : ObjectLoader) (name : String) : Decidable (l.Shares name) :=
  inferInstanceAs (Decidable (_ = true))

def find? (l : ObjectLoader) (name : String) : Option ClassObject :=
  (l.shared.get? name).or (l.classes.get? name)

def lookup (l : ObjectLoader) (name : String) : Except Failure ClassObject :=
  match l.find? name with
  | some o => .ok o
  | none =>
    .error (.invalidArgument
      ("Class '" ++ name ++ "' not found in module(s): " ++ Text.join ", " l.origins))

end ObjectLoader

structure ObjectCache where
  engines : EngineTable
  loaders : List ObjectLoader
  objects : ClassObjects
  nextNumber : Nat

namespace ObjectCache

open LoaderCache (Request)

def ofEngines (engines : EngineTable) : ObjectCache := ⟨engines, [], .initial, 1⟩

def shareFor (cache : ObjectCache) (r : Request) : ObjectMap × ClassObjects :=
  cache.objects.share r.shared

def defineFor (cache : ObjectCache) (r : Request) : Except Failure ObjectMap × ClassObjects :=
  ClassObjects.define ⟨cache.nextNumber⟩ cache.engines (cache.shareFor r).1 r.artifacts.artifacts
    (.empty, (cache.shareFor r).2)

def build (cache : ObjectCache) (r : Request) : Except Failure ObjectLoader × ObjectCache :=
  let used : ObjectCache :=
    ⟨cache.engines, cache.loaders, (cache.defineFor r).2, cache.nextNumber + 1⟩
  match (cache.defineFor r).1 with
  | .error e => (.error e, used)
  | .ok classes =>
    let l : ObjectLoader :=
      ⟨⟨cache.nextNumber⟩, r.key, r.artifacts.identities.map ArtifactIdentity.fileName, classes,
        (cache.shareFor r).1⟩
    (.ok l, { used with loaders := l :: cache.loaders })

def obtain (cache : ObjectCache) (r : Request) : Except Failure ObjectLoader × ObjectCache :=
  match cache.loaders.find? fun l => l.key = r.key with
  | some l => (.ok l, cache)
  | none => cache.build r

def after (cache : ObjectCache) : List Request → ObjectCache
  | [] => cache
  | r :: rest => after (cache.obtain r).2 rest

end ObjectCache

end FormatterModules
