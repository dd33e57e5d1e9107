import FormatterModules.Proofs.Loader.Cache
import FormatterModules.Proofs.Ordered.Map

namespace FormatterModules

namespace ModuleLoader

def Owned (id : LoaderId) (shared : SharedNames) (classes : OrderedMap String ModuleClass) : Prop :=
  ∀ name c, classes.get? name = some c → c.identity = (some id, name) ∧ shared.contains name = false

theorem Owned.addClass {id : LoaderId} {shared : SharedNames}
    {classes : OrderedMap String ModuleClass} (h : Owned id shared classes) {c : ModuleClass}
    (hc : c.definer? = some id) : Owned id shared (addClass shared classes c) := by
  unfold ModuleLoader.addClass
  by_cases hshared : shared.contains c.name = true
  · rwa [if_pos hshared]
  · rw [if_neg hshared, OrderedMap.insertIfNew]
    split
    · exact h
    · intro name d hd
      rw [OrderedMap.get?_insert] at hd
      split at hd
      · next hname =>
        cases hd
        subst name
        exact ⟨by rw [ModuleClass.identity, hc], by simpa using hshared⟩
      · exact h name d hd

theorem definer?_of_mem_declared {id : LoaderId} {engines : EngineTable}
    {modules : List (Artifact × Manifest)} {c : ModuleClass}
    (h : c ∈ declared id engines modules) : c.definer? = some id := by
  obtain ⟨am, -, hc⟩ := List.mem_flatMap.mp h
  obtain ⟨d, -, rfl⟩ := List.mem_map.mp hc
  rfl

theorem owned_ofArtifacts {id : LoaderId} {engines : EngineTable} {artifacts : ArtifactSet}
    {shared : SharedNames} {l : ModuleLoader}
    (h : ofArtifacts id engines artifacts shared = .ok l) : Owned id shared l.classes := by
  suffices hfold : ∀ (cs : List ModuleClass) (classes : OrderedMap String ModuleClass),
      (∀ c ∈ cs, c.definer? = some id) → Owned id shared classes →
        Owned id shared (cs.foldl (addClass shared) classes) by
    unfold ofArtifacts at h
    cases hm : readManifests artifacts.artifacts with
    | error e => rw [hm] at h; cases h
    | ok modules =>
      rw [hm] at h
      cases h
      exact hfold _ .empty (fun c hc => definer?_of_mem_declared hc) fun name c hc => nomatch hc
  intro cs
  induction cs with
  | nil => exact fun classes _ hclasses => hclasses
  | cons c cs ih =>
    intro classes hcs hclasses
    obtain ⟨hc, hcs⟩ := List.forall_mem_cons.mp hcs
    exact ih _ hcs (hclasses.addClass hc)

end ModuleLoader

namespace LoaderCache

/-- The loaders have different numbers, all below the next one. -/
structure Numbered (cache : LoaderCache) : Prop where
  below : ∀ l ∈ cache.loaders, l.id.number < cache.nextNumber
  distinct : (cache.loaders.map ModuleLoader.id).Nodup

theorem numbered_ofEngines (engines : EngineTable) : Numbered (ofEngines engines) where
  below l hl := by cases hl
  distinct := List.nodup_nil

theorem Numbered.build {cache : LoaderCache} (h : Numbered cache) (artifacts : ArtifactSet)
    (shared : SharedNames) : Numbered (cache.build artifacts shared).2 := by
  have hold : ∀ l ∈ cache.loaders, l.id.number < cache.nextNumber + 1 :=
    fun l hl => Nat.lt_succ_of_lt (h.below l hl)
  unfold LoaderCache.build LoaderCache.make takeNumber
  dsimp only
  cases hmade : ModuleLoader.ofArtifacts ⟨cache.nextNumber⟩ cache.engines artifacts shared with
  | error e => exact ⟨hold, h.distinct⟩
  | ok l =>
    have hid : l.id = ⟨cache.nextNumber⟩ := (ModuleLoader.key_ofArtifacts hmade).1
    refine ⟨?_, List.nodup_cons.mpr ⟨?_, h.distinct⟩⟩
    · intro k hk
      rcases List.mem_cons.mp hk with rfl | hk
      · rw [hid]
        exact Nat.lt_succ_self _
      · exact hold k hk
    · intro hmem
      obtain ⟨k, hk, hkid⟩ := List.mem_map.mp hmem
      have hlt := h.below k hk
      rw [hkid, hid] at hlt
      exact Nat.lt_irrefl _ hlt

theorem Numbered.after {cache : LoaderCache} (h : Numbered cache) (requests : List Request) :
    Numbered (cache.after requests) := by
  induction requests generalizing cache with
  | nil => exact h
  | cons r rest ih =>
    refine ih ?_
    unfold obtain
    cases cache.find? (.of r.artifacts r.shared) with
    | some l => exact h
    | none => exact h.build r.artifacts r.shared

end LoaderCache

end FormatterModules
