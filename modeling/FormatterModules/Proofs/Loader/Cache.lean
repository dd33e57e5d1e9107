import FormatterModules.Loader.Threads
import FormatterModules.Proofs.Loader.Contents
import FormatterModules.Proofs.Loader.Renumbering

namespace FormatterModules

/-- Both fail in the same way, or both come to something, and that agrees. -/
inductive SameOutcome {α : Type} (Agree : α → α → Prop) :
    Except Failure α → Except Failure α → Prop
  | error (e : Failure) : SameOutcome Agree (.error e) (.error e)
  | ok {a b : α} (h : Agree a b) : SameOutcome Agree (.ok a) (.ok b)

theorem SameOutcome.mono {α : Type} {Agree Weaker : α → α → Prop}
    (hw : ∀ a b, Agree a b → Weaker a b) {x y : Except Failure α} (h : SameOutcome Agree x y) :
    SameOutcome Weaker x y := by
  cases h with
  | error e => exact .error e
  | ok h => exact .ok (hw _ _ h)

namespace LoaderCache

variable {engines : EngineTable} {requests : List Request} {cache : LoaderCache}

/-- The cache after requests that were made one after another. -/
def after (cache : LoaderCache) : List Request → LoaderCache
  | [] => cache
  | r :: rest => after (cache.obtain r.artifacts r.shared).2 rest

/-- The texts of all requested artifacts. -/
def requestedTexts (requests : List Request) : List String :=
  requests.flatMap fun r => r.artifacts.contents

/-- Each loader of the cache is what one of the requests gives under the number of the loader. -/
structure Recorded (engines : EngineTable) (requests : List Request) (cache : LoaderCache) :
    Prop where
  table : cache.engines = engines
  loaders : ∀ l ∈ cache.loaders, ∃ r ∈ requests,
    ModuleLoader.ofArtifacts l.id engines r.artifacts r.shared = .ok l

theorem recorded_ofEngines (engines : EngineTable) : Recorded engines [] (.ofEngines engines) where
  table := rfl
  loaders := by
    intro l hl
    cases hl

theorem Recorded.mono (h : Recorded engines requests cache) {more : List Request}
    (hsub : requests ⊆ more) : Recorded engines more cache where
  table := h.table
  loaders := by
    intro l hl
    obtain ⟨r, hr, hmade⟩ := h.loaders l hl
    exact ⟨r, hsub hr, hmade⟩

theorem fst_make (cache : LoaderCache) (id : LoaderId) (artifacts : ArtifactSet)
    (shared : SharedNames) :
    (cache.make id artifacts shared).1 =
      ModuleLoader.ofArtifacts id cache.engines artifacts shared := by
  unfold make
  cases ModuleLoader.ofArtifacts id cache.engines artifacts shared <;> rfl

@[simp] theorem engines_make (cache : LoaderCache) (id : LoaderId) (artifacts : ArtifactSet)
    (shared : SharedNames) : (cache.make id artifacts shared).2.engines = cache.engines := by
  unfold make
  cases ModuleLoader.ofArtifacts id cache.engines artifacts shared <;> rfl

@[simp] theorem nextNumber_make (cache : LoaderCache) (id : LoaderId) (artifacts : ArtifactSet)
    (shared : SharedNames) : (cache.make id artifacts shared).2.nextNumber = cache.nextNumber := by
  unfold make
  cases ModuleLoader.ofArtifacts id cache.engines artifacts shared <;> rfl

theorem size_make (cache : LoaderCache) (id : LoaderId) (artifacts : ArtifactSet)
    (shared : SharedNames) :
    (cache.make id artifacts shared).2.size =
      cache.size + if (cache.make id artifacts shared).1.toBool then 1 else 0 := by
  unfold make
  cases ModuleLoader.ofArtifacts id cache.engines artifacts shared <;> rfl

theorem find?_make_iff (cache : LoaderCache) (id : LoaderId) {artifacts : ArtifactSet}
    {shared : SharedNames} (hnone : cache.find? (.of artifacts shared) = none) (key : LoaderKey)
    (l : ModuleLoader) :
    (cache.make id artifacts shared).2.find? key = some l ↔
      cache.find? key = some l ∨
        .of artifacts shared = key ∧ (cache.make id artifacts shared).1 = .ok l := by
  unfold make
  cases hmade : ModuleLoader.ofArtifacts id cache.engines artifacts shared with
  | error e => simp
  | ok k =>
    have hkey : k.key = .of artifacts shared := (ModuleLoader.key_ofArtifacts hmade).2
    change (List.find? _ (k :: cache.loaders) = some l) ↔ _
    by_cases h : k.key = key
    · have hfound : cache.find? key = none := by rw [← h, hkey, hnone]
      rw [List.find?_cons_of_pos (by simpa using h), hfound, ← hkey]
      simp [h]
    · rw [List.find?_cons_of_neg (by simpa using h), ← hkey]
      change cache.find? key = some l ↔ _
      simp [h]

theorem Recorded.make (h : Recorded engines requests cache) (r : Request) (id : LoaderId) :
    Recorded engines (r :: requests) (cache.make id r.artifacts r.shared).2 := by
  have hold : Recorded engines (r :: requests) cache := h.mono (List.subset_cons_self r requests)
  unfold LoaderCache.make
  cases hmade : ModuleLoader.ofArtifacts id cache.engines r.artifacts r.shared with
  | error e => exact hold
  | ok l =>
    refine ⟨hold.table, ?_⟩
    intro k hk
    rcases List.mem_cons.mp hk with rfl | hk
    · refine ⟨r, List.mem_cons_self, ?_⟩
      rw [(ModuleLoader.key_ofArtifacts hmade).1, ← h.table]
      exact hmade
    · exact hold.loaders k hk

theorem Recorded.obtain (h : Recorded engines requests cache) (r : Request) :
    Recorded engines (r :: requests) (cache.obtain r.artifacts r.shared).2 := by
  unfold LoaderCache.obtain
  cases cache.find? (.of r.artifacts r.shared) with
  | some l => exact h.mono (List.subset_cons_self r requests)
  | none =>
    have htaken : Recorded engines requests cache.takeNumber.2 := ⟨h.table, h.loaders⟩
    exact htaken.make r cache.takeNumber.1

theorem Recorded.after (h : Recorded engines requests cache) (rest : List Request) :
    Recorded engines (rest ++ requests) (cache.after rest) := by
  induction rest generalizing requests cache with
  | nil => exact h
  | cons r rest ih =>
    refine (ih (h.obtain r)).mono ?_
    intro q hq
    simp only [List.mem_append, List.mem_cons] at hq ⊢
    tauto

theorem recorded_after (engines : EngineTable) (history : List Request) :
    Recorded engines history ((ofEngines engines).after history) := by
  have h := (recorded_ofEngines engines).after history
  rwa [List.append_nil] at h

theorem requestedTexts_subset {more : List Request} (h : requests ⊆ more) :
    requestedTexts requests ⊆ requestedTexts more := by
  intro text ht
  obtain ⟨r, hr, htext⟩ := List.mem_flatMap.mp ht
  exact List.mem_flatMap.mpr ⟨r, h hr, htext⟩

theorem contents_subset_requestedTexts {r : Request} (h : r ∈ requests) :
    r.artifacts.contents ⊆ requestedTexts requests :=
  fun _ ht => List.mem_flatMap.mpr ⟨r, h, ht⟩

theorem Recorded.ofArtifacts_find? (h : Recorded engines requests cache) {r : Request}
    (hc : CollisionFree (requestedTexts (r :: requests))) {l : ModuleLoader}
    (hl : cache.find? r.key = some l) :
    ModuleLoader.ofArtifacts l.id engines r.artifacts r.shared = .ok l := by
  have hkey : l.key = r.key := by simpa using List.find?_some hl
  obtain ⟨q, hq, hmade⟩ := h.loaders l (List.mem_of_find?_eq_some hl)
  rw [(ModuleLoader.key_ofArtifacts hmade).2] at hkey
  refine ModuleLoader.ofArtifacts_eq_of_key_eq (hc.subset ?_) hkey hmade
  exact List.append_subset.mpr
    ⟨contents_subset_requestedTexts (List.mem_cons_of_mem r hq),
      contents_subset_requestedTexts List.mem_cons_self⟩

theorem Recorded.obtain_eq (h : Recorded engines requests cache) {r : Request}
    (hc : CollisionFree (requestedTexts (r :: requests))) :
    ∃ id, (cache.obtain r.artifacts r.shared).1 =
      ModuleLoader.ofArtifacts id engines r.artifacts r.shared := by
  unfold LoaderCache.obtain
  cases hl : cache.find? (.of r.artifacts r.shared) with
  | some l => exact ⟨l.id, (h.ofArtifacts_find? hc hl).symm⟩
  | none =>
    refine ⟨cache.takeNumber.1, ?_⟩
    rw [← h.table]
    exact fst_make cache.takeNumber.2 cache.takeNumber.1 r.artifacts r.shared

theorem Recorded.obtain_agree (h : Recorded engines requests cache) {r : Request}
    (hc : CollisionFree (requestedTexts (r :: requests))) (id : LoaderId) :
    SameOutcome ModuleLoader.Agree (cache.obtain r.artifacts r.shared).1
      (ModuleLoader.ofArtifacts id engines r.artifacts r.shared) := by
  obtain ⟨id', hid'⟩ := h.obtain_eq hc
  have hnumber := ModuleLoader.ofArtifacts_renumber id' id engines r.artifacts r.shared
  rw [hid']
  cases hk : ModuleLoader.ofArtifacts id' engines r.artifacts r.shared with
  | error e =>
    rw [hk] at hnumber
    rw [← hnumber]
    exact .error e
  | ok k =>
    rw [hk] at hnumber
    rw [← hnumber]
    exact .ok (ModuleLoader.agree_of_renumber rfl)

theorem Recorded.obtain_agree_obtain {others : List Request} {other : LoaderCache}
    (h : Recorded engines requests cache) (ho : Recorded engines others other) {r : Request}
    (hc : CollisionFree (requestedTexts (r :: requests ++ others))) :
    SameOutcome ModuleLoader.Agree (cache.obtain r.artifacts r.shared).1
      (other.obtain r.artifacts r.shared).1 := by
  have hrequests : r :: requests ⊆ r :: requests ++ others := List.subset_append_left _ _
  have hothers : r :: others ⊆ r :: requests ++ others := by
    intro q hq
    simp only [List.mem_cons, List.cons_append, List.mem_append] at hq ⊢
    tauto
  obtain ⟨id, hid⟩ := ho.obtain_eq (hc.subset (requestedTexts_subset hothers))
  rw [hid]
  exact h.obtain_agree (hc.subset (requestedTexts_subset hrequests)) id

end LoaderCache

end FormatterModules
