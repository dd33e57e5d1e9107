import FormatterModules.Loader.Objects
import FormatterModules.Proofs.Loader.Cache

namespace FormatterModules

namespace ClassObjects

theorem keys_foldl_shareName (names : List String) (s : ObjectMap × ClassObjects) (name : String) :
    name ∈ (names.foldl shareName s).1.keys ↔ name ∈ s.1.keys ∨ name ∈ names := by
  induction names generalizing s with
  | nil => simp
  | cons n names ih =>
    rw [List.foldl_cons, ih, shareName, OrderedMap.mem_keys_insert_iff, List.mem_cons]
    tauto

theorem contains_share (objects : ClassObjects) (shared : SharedNames) (name : String) :
    (objects.share shared).1.contains name = shared.contains name := by
  rw [Bool.eq_iff_iff, OrderedMap.contains_iff, share, keys_foldl_shareName,
    OrderedSet.contains_iff]
  simp [OrderedMap.keys, OrderedMap.empty]

theorem mapValues_addClass {map : ObjectMap} {shared : SharedNames}
    (h : ∀ name, map.contains name = shared.contains name) (s : ObjectMap × ClassObjects)
    (c : ModuleClass) :
    (addClass map s c).1.mapValues ClassObject.contents =
      ModuleLoader.addClass shared (s.1.mapValues ClassObject.contents) c := by
  unfold addClass ModuleLoader.addClass
  rw [h]
  by_cases hshared : shared.contains c.name = true
  · simp [hshared]
  · by_cases hknown : s.1.contains c.name = true
    · simp [hshared, hknown, OrderedMap.insertIfNew]
    · simp [hshared, hknown, OrderedMap.insertIfNew, OrderedMap.mapValues_insert, make]

theorem mapValues_foldl_addClass {map : ObjectMap} {shared : SharedNames}
    (h : ∀ name, map.contains name = shared.contains name) (cs : List ModuleClass)
    (s : ObjectMap × ClassObjects) :
    (cs.foldl (addClass map) s).1.mapValues ClassObject.contents =
      cs.foldl (ModuleLoader.addClass shared) (s.1.mapValues ClassObject.contents) := by
  induction cs generalizing s with
  | nil => rfl
  | cons c cs ih => rw [List.foldl_cons, ih, mapValues_addClass h, List.foldl_cons]

theorem mapValues_define {map : ObjectMap} {shared : SharedNames}
    (h : ∀ name, map.contains name = shared.contains name) (id : LoaderId) (engines : EngineTable)
    (as : List Artifact) (s : ObjectMap × ClassObjects) :
    (define id engines map as s).1.map (OrderedMap.mapValues ClassObject.contents) =
      (ModuleLoader.readManifests as).map fun modules =>
        (ModuleLoader.declared id engines modules).foldl (ModuleLoader.addClass shared)
          (s.1.mapValues ClassObject.contents) := by
  induction as generalizing s with
  | nil => rfl
  | cons a as ih =>
    unfold define ModuleLoader.readManifests
    cases Manifest.parse a.location.text a.content with
    | error e => rfl
    | ok m =>
      dsimp only
      rw [ih, mapValues_foldl_addClass h]
      cases ModuleLoader.readManifests as with
      | error e => rfl
      | ok modules =>
        simp only [Except.map, ModuleLoader.declared, List.flatMap_cons, List.foldl_append]

end ClassObjects

namespace ObjectLoader

/-- The loader with the contents of its objects. -/
def forget (l : ObjectLoader) : ModuleLoader :=
  ⟨l.id, l.key, l.origins, l.classes.mapValues ClassObject.contents⟩

@[simp] theorem key_forget (l : ObjectLoader) : l.forget.key = l.key := rfl

end ObjectLoader

namespace ObjectCache

open LoaderCache (Request)

/-- The cache with the contents of its objects. -/
def forget (cache : ObjectCache) : LoaderCache :=
  ⟨cache.engines, cache.loaders.map ObjectLoader.forget, cache.nextNumber⟩

theorem mapValues_defineFor (cache : ObjectCache) (r : Request) :
    (cache.defineFor r).1.map (OrderedMap.mapValues ClassObject.contents) =
      (ModuleLoader.readManifests r.artifacts.artifacts).map fun modules =>
        (ModuleLoader.declared ⟨cache.nextNumber⟩ cache.engines modules).foldl
          (ModuleLoader.addClass r.shared) .empty :=
  ClassObjects.mapValues_define (ClassObjects.contains_share cache.objects r.shared) _ _ _ _

theorem build_forget (cache : ObjectCache) (r : Request) :
    (cache.build r).1.map ObjectLoader.forget = (cache.forget.build r.artifacts r.shared).1 ∧
      (cache.build r).2.forget = (cache.forget.build r.artifacts r.shared).2 := by
  have hclasses := mapValues_defineFor cache r
  unfold build LoaderCache.build LoaderCache.make
  cases hd : (cache.defineFor r).1 with
  | error e =>
    rw [hd] at hclasses
    cases hm : ModuleLoader.readManifests r.artifacts.artifacts with
    | error e' =>
      rw [hm] at hclasses
      obtain rfl : e = e' := Except.error.inj hclasses
      simp only [LoaderCache.takeNumber, ModuleLoader.ofArtifacts_error hm]
      exact ⟨rfl, rfl⟩
    | ok modules =>
      rw [hm] at hclasses
      cases hclasses
  | ok classes =>
    rw [hd] at hclasses
    cases hm : ModuleLoader.readManifests r.artifacts.artifacts with
    | error e' =>
      rw [hm] at hclasses
      cases hclasses
    | ok modules =>
      rw [hm] at hclasses
      have hclasses := Except.ok.inj hclasses
      simp only [LoaderCache.takeNumber, ModuleLoader.ofArtifacts, hm]
      simp only [forget, Except.map, ObjectLoader.forget, hclasses, List.map_cons]
      exact ⟨rfl, rfl⟩

theorem obtain_forget (cache : ObjectCache) (r : Request) :
    (cache.obtain r).1.map ObjectLoader.forget = (cache.forget.obtain r.artifacts r.shared).1 ∧
      (cache.obtain r).2.forget = (cache.forget.obtain r.artifacts r.shared).2 := by
  have hfind : cache.forget.find? r.key =
      (cache.loaders.find? fun l => l.key = r.key).map ObjectLoader.forget := by
    unfold LoaderCache.find? forget
    rw [List.find?_map]
    rfl
  unfold obtain LoaderCache.obtain
  rw [show cache.forget.find? (.of r.artifacts r.shared) = _ from hfind]
  cases cache.loaders.find? fun l => l.key = r.key with
  | some l => exact ⟨rfl, rfl⟩
  | none => exact cache.build_forget r

theorem after_forget (cache : ObjectCache) (requests : List Request) :
    (cache.after requests).forget = cache.forget.after requests := by
  induction requests generalizing cache with
  | nil => rfl
  | cons r rest ih =>
    rw [after, ih, (cache.obtain_forget r).2, LoaderCache.after]

end ObjectCache

end FormatterModules
