import FormatterModules.Proofs.FileTree.Below
import FormatterModules.Proofs.Loader.Cache

namespace FormatterModules

/-- Both fail, in whatever way, or both come to something, and that is related. -/
inductive Parallel {α β : Type} (Related : α → β → Prop) :
    Except Failure α → Except Failure β → Prop
  | error (e e' : Failure) : Parallel Related (.error e) (.error e')
  | ok {a : α} {b : β} (h : Related a b) : Parallel Related (.ok a) (.ok b)

theorem Parallel.mono {α β : Type} {Related Weaker : α → β → Prop}
    (hw : ∀ a b, Related a b → Weaker a b) {x : Except Failure α} {y : Except Failure β}
    (h : Parallel Related x y) : Parallel Weaker x y := by
  cases h with
  | error e e' => exact .error e e'
  | ok h => exact .ok (hw _ _ h)

theorem Parallel.exists_of_toBool {α β : Type} {Related : α → β → Prop} {x : Except Failure α}
    {y : Except Failure β} (h : Parallel Related x y) (hx : x.toBool = true) :
    ∃ a b, x = .ok a ∧ y = .ok b ∧ Related a b := by
  cases h with
  | error e e' => cases hx
  | @ok a b h => exact ⟨a, b, rfl, rfl, h⟩

theorem parallel_of_ok {α β : Type} {Related : α → β → Prop} {x : Except Failure α}
    {y : Except Failure β} (h : ∀ a, x = .ok a → ∃ b, y = .ok b ∧ Related a b)
    (h' : ∀ b, y = .ok b → ∃ a, x = .ok a) : Parallel Related x y := by
  cases x with
  | ok a =>
    obtain ⟨b, rfl, hab⟩ := h a rfl
    exact .ok hab
  | error e =>
    cases y with
    | error e' => exact .error e e'
    | ok b =>
      obtain ⟨a, ha⟩ := h' b rfl
      cases ha

namespace ArtifactSet

variable {files others : FileTree}

/-- Files of one name, from which the same text is read, if any. -/
def SameFile (files : FileTree) (p : Path) (others : FileTree) (q : Path) : Prop :=
  p.lastName = q.lastName ∧ (files.readText p).toOption = (others.readText q).toOption

theorem readArtifact_parallel {p q : Path} (h : SameFile files p others q) :
    Parallel Artifact.Copies (readArtifact files p) (readArtifact others q) := by
  obtain ⟨hname, htext⟩ := h
  unfold readArtifact
  obtain ⟨e, e', hp, hq⟩ | ⟨text, hp, hq⟩ := FileTree.cases_of_toOption_eq htext
  · rw [hp, hq]
    exact .error _ _
  · rw [hp, hq]
    exact .ok (Artifact.copies_ofContent hname text)

theorem readArtifacts_parallel {ps qs : List Path}
    (h : List.Forall₂ (fun p q => SameFile files p others q) ps qs) :
    Parallel (List.Forall₂ Artifact.Copies) (readArtifacts files ps) (readArtifacts others qs) := by
  induction h with
  | nil => exact .ok .nil
  | @cons p q ps qs hpq _ ih =>
    have hfirst := readArtifact_parallel hpq
    unfold readArtifacts
    generalize readArtifact files p = first at hfirst
    generalize readArtifact others q = first' at hfirst
    cases hfirst with
    | error e e' => exact .error e e'
    | ok hab =>
      generalize readArtifacts files ps = rest at ih
      generalize readArtifacts others qs = rest' at ih
      cases ih with
      | error e e' => exact .error e e'
      | ok hrest => exact .ok (.cons hab hrest)

theorem ofLocations_parallel {ps qs : OrderedSet Path}
    (h : List.Forall₂ (fun p q => SameFile files p others q) ps.toList qs.toList) :
    Parallel Copies (ofLocations files ps) (ofLocations others qs) := by
  have hread := readArtifacts_parallel h
  unfold ofLocations
  generalize readArtifacts files ps.toList = read at hread
  generalize readArtifacts others qs.toList = read' at hread
  cases hread with
  | error e e' => exact .error e e'
  | ok hcopies => exact .ok (copies_ofList hcopies)

end ArtifactSet

namespace ModuleLoader

variable {artifacts others : ArtifactSet}

theorem ofArtifacts_parallel (h : artifacts.Copies others) (id : LoaderId) (engines : EngineTable)
    (shared : SharedNames) :
    Parallel Eq (ofArtifacts id engines artifacts shared) (ofArtifacts id engines others shared) :=
  parallel_of_ok (fun l hl => ⟨l, ofArtifacts_of_copies h hl, rfl⟩)
    fun l hl => ⟨l, ofArtifacts_of_copies h.symm hl⟩

theorem ofArtifacts_error_of_copies (id' : LoaderId) (h : artifacts.Copies others) {id : LoaderId}
    {engines : EngineTable} {shared : SharedNames} {e : Failure}
    (he : ofArtifacts id engines artifacts shared = .error e) :
    ∃ e', ofArtifacts id' engines others shared = .error e' := by
  have hnumber := ofArtifacts_renumber id id' engines artifacts shared
  rw [he] at hnumber
  have hcopies := ofArtifacts_parallel h id' engines shared
  rw [← hnumber] at hcopies
  generalize ofArtifacts id' engines others shared = made at hcopies ⊢
  cases hcopies with
  | error _ e' => exact ⟨e', rfl⟩

/-- Both loaders define classes of the same names, and give the same class, but for its definer,
under every name. -/
structure OffersSame (k l : ModuleLoader) : Prop where
  classNames : k.classNames = l.classNames
  lookup : ∀ name (id : LoaderId),
    (k.lookup name).map (ModuleClass.renumber id) = (l.lookup name).map (ModuleClass.renumber id)

theorem OffersSame.refl (l : ModuleLoader) : OffersSame l l := ⟨rfl, fun _ _ => rfl⟩

theorem Agree.offersSame {k l : ModuleLoader} (h : k.Agree l) : OffersSame k l :=
  ⟨h.classNames, h.lookup⟩

theorem OffersSame.toBool_lookup {k l : ModuleLoader} (h : OffersSame k l) (name : String) :
    (k.lookup name).toBool = (l.lookup name).toBool := by
  have hmap := h.lookup name ⟨0⟩
  cases hk : k.lookup name with
  | error e =>
    cases hl : l.lookup name with
    | error e' => rfl
    | ok c => rw [hk, hl] at hmap; cases hmap
  | ok c =>
    cases hl : l.lookup name with
    | error e => rw [hk, hl] at hmap; cases hmap
    | ok c' => rfl

end ModuleLoader

namespace LoaderCache

variable {artifacts others : ArtifactSet} {engines : EngineTable}

theorem find?_copies (cache : LoaderCache) (h : artifacts.Copies others) (shared : SharedNames) :
    cache.find? (.of others shared) = cache.find? (.of artifacts shared) := by
  rw [LoaderKey.of, LoaderKey.of, ArtifactSet.identitySet_inj.mpr h.identities_eq]

theorem obtain_parallel (cache : LoaderCache) (h : artifacts.Copies others) (shared : SharedNames) :
    Parallel Eq (cache.obtain artifacts shared).1 (cache.obtain others shared).1 := by
  unfold LoaderCache.obtain
  rw [cache.find?_copies h]
  cases cache.find? (.of artifacts shared) with
  | some l => exact .ok rfl
  | none =>
    unfold build
    dsimp only
    rw [fst_make, fst_make]
    exact ModuleLoader.ofArtifacts_parallel h _ _ shared

theorem snd_make_of_error {cache : LoaderCache} {id : LoaderId} {shared : SharedNames} {e : Failure}
    (h : (cache.make id artifacts shared).1 = .error e) :
    (cache.make id artifacts shared).2 = cache := by
  unfold make at h ⊢
  cases hmade : ModuleLoader.ofArtifacts id cache.engines artifacts shared with
  | error e => rfl
  | ok l => rw [hmade] at h; cases h

theorem obtain_again_parallel (cache : LoaderCache) (h : artifacts.Copies others)
    (shared : SharedNames) :
    Parallel Eq (cache.obtain artifacts shared).1
      ((cache.obtain artifacts shared).2.obtain others shared).1 := by
  cases hfound : cache.find? (.of artifacts shared) with
  | some l =>
    have hobtain : cache.obtain artifacts shared = (.ok l, cache) := by
      rw [LoaderCache.obtain, hfound]
    rw [hobtain, LoaderCache.obtain, cache.find?_copies h, hfound]
    exact .ok rfl
  | none =>
    have hobtain : cache.obtain artifacts shared =
        cache.takeNumber.2.make cache.takeNumber.1 artifacts shared := by
      rw [LoaderCache.obtain, hfound]
      rfl
    have hmade := fst_make cache.takeNumber.2 cache.takeNumber.1 artifacts shared
    rw [hobtain]
    cases hfirst : (cache.takeNumber.2.make cache.takeNumber.1 artifacts shared).1 with
    | ok l =>
      have hkept := (find?_make_iff cache.takeNumber.2 cache.takeNumber.1 hfound
        (.of artifacts shared) l).mpr (.inr ⟨rfl, hfirst⟩)
      rw [LoaderCache.obtain, find?_copies _ h, hkept]
      exact .ok rfl
    | error e =>
      -- The second attempt has another number, and fails under it as well.
      have hnone : cache.takeNumber.2.find? (.of artifacts shared) = none := hfound
      obtain ⟨e', hagain⟩ := ModuleLoader.ofArtifacts_error_of_copies
        cache.takeNumber.2.takeNumber.1 h (hmade.symm.trans hfirst)
      have hsecond := fst_make cache.takeNumber.2.takeNumber.2 cache.takeNumber.2.takeNumber.1
        others shared
      rw [snd_make_of_error hfirst, LoaderCache.obtain, find?_copies _ h, hnone]
      unfold build
      dsimp only
      rw [hsecond.trans hagain]
      exact .error e e'

theorem Recorded.obtain_parallel {requests earlier : List Request} {cache other : LoaderCache}
    (hr : Recorded engines requests cache) (ho : Recorded engines earlier other)
    (h : artifacts.Copies others) {shared : SharedNames}
    (hc : CollisionFree (requestedTexts (⟨artifacts, shared⟩ :: requests ++ earlier))) :
    Parallel ModuleLoader.OffersSame (cache.obtain artifacts shared).1
      (other.obtain others shared).1 := by
  have hagree := hr.obtain_agree_obtain ho hc
  have hcopies := other.obtain_parallel h shared
  dsimp only at hagree
  generalize (cache.obtain artifacts shared).1 = x at hagree
  generalize (other.obtain artifacts shared).1 = y at hagree hcopies
  generalize (other.obtain others shared).1 = z at hcopies
  cases hagree with
  | error e =>
    cases hcopies with
    | error _ e' => exact .error e e'
  | ok hagree =>
    cases hcopies with
    | ok heq =>
      subst heq
      exact .ok hagree.offersSame

end LoaderCache

end FormatterModules
