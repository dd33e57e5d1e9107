import FormatterModules.Loader
import FormatterModules.Proofs.Ordered.Map

namespace FormatterModules

namespace ModuleClass

def renumber (id : LoaderId) (c : ModuleClass) : ModuleClass :=
  { c with definer? := c.definer?.map fun _ => id }

end ModuleClass

namespace ModuleLoader

def renumber (id : LoaderId) (l : ModuleLoader) : ModuleLoader :=
  { l with id, classes := l.classes.mapValues (.renumber id) }

theorem declared_renumber (id id' : LoaderId) (engines : EngineTable)
    (modules : List (Artifact × Manifest)) :
    (declared id engines modules).map (.renumber id') = declared id' engines modules := by
  induction modules with
  | nil => rfl
  | cons am modules ih =>
    unfold declared at ih ⊢
    rw [List.flatMap_cons, List.map_append, ih, List.map_map, List.flatMap_cons]
    rfl

theorem mapValues_addClass (id : LoaderId) (shared : SharedNames)
    (classes : OrderedMap String ModuleClass) (c : ModuleClass) :
    (addClass shared classes c).mapValues (.renumber id) =
      addClass shared (classes.mapValues (.renumber id)) (c.renumber id) := by
  unfold addClass
  change _ = if shared.contains c.name then _ else _
  by_cases h : shared.contains c.name
  · rw [if_pos h, if_pos h]
  · rw [if_neg h, if_neg h]
    exact OrderedMap.mapValues_insertIfNew _ classes c.name c

theorem mapValues_foldl_addClass (id : LoaderId) (shared : SharedNames) (cs : List ModuleClass)
    (classes : OrderedMap String ModuleClass) :
    (cs.foldl (addClass shared) classes).mapValues (.renumber id) =
      (cs.map (.renumber id)).foldl (addClass shared) (classes.mapValues (.renumber id)) := by
  induction cs generalizing classes with
  | nil => rfl
  | cons c cs ih => rw [List.foldl_cons, ih, mapValues_addClass, List.map_cons, List.foldl_cons]

theorem ofArtifacts_renumber (id id' : LoaderId) (engines : EngineTable) (artifacts : ArtifactSet)
    (shared : SharedNames) :
    (ofArtifacts id engines artifacts shared).map (.renumber id') =
      ofArtifacts id' engines artifacts shared := by
  unfold ofArtifacts
  cases readManifests artifacts.artifacts with
  | error e => rfl
  | ok modules =>
    have hclasses := mapValues_foldl_addClass id' shared (declared id engines modules) .empty
    rw [declared_renumber, OrderedMap.mapValues_empty] at hclasses
    change Except.ok (renumber id' ⟨id, _, _, _⟩) = Except.ok ⟨id', _, _, _⟩
    rw [renumber, hclasses]

theorem lookup_renumber (l : ModuleLoader) (id : LoaderId) (name : String) :
    (l.renumber id).lookup name = (l.lookup name).map (.renumber id) := by
  have hfind : (l.renumber id).find? name = (l.find? name).map (.renumber id) := by
    change (if l.key.shared.contains name then _ else _) = Option.map _ (if _ then _ else _)
    by_cases h : l.key.shared.contains name
    · rw [if_pos h, if_pos h]
      rfl
    · rw [if_neg h, if_neg h]
      exact OrderedMap.get?_mapValues _ l.classes name
  unfold lookup
  rw [hfind]
  cases l.find? name with
  | none => rfl
  | some c => rfl

/-- The loaders differ in nothing but their numbers: they have the same key and origins, and under
every name they have the same class or both miss it. -/
structure Agree (k l : ModuleLoader) : Prop where
  key : k.key = l.key
  origins : k.origins = l.origins
  classNames : k.classNames = l.classNames
  lookup : ∀ name (id : LoaderId),
    (k.lookup name).map (ModuleClass.renumber id) = (l.lookup name).map (ModuleClass.renumber id)
  renumber : k.renumber l.id = l

theorem agree_of_renumber {k l : ModuleLoader} (h : k.renumber l.id = l) : k.Agree l where
  key := by
    rw [← h]
    rfl
  origins := by
    rw [← h]
    rfl
  classNames := by
    rw [← h]
    exact (OrderedMap.keys_mapValues _ k.classes).symm
  lookup := by
    intro name id
    rw [← h, lookup_renumber]
    cases k.lookup name with
    | error e => rfl
    | ok c =>
      obtain ⟨_, _, _, definer?, _, _⟩ := c
      cases definer? <;> rfl
  renumber := h

end ModuleLoader

end FormatterModules
