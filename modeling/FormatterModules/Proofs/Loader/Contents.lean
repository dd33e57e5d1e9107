import FormatterModules.Loader
import FormatterModules.Proofs.Artifact.Set
import FormatterModules.Proofs.Manifest.Reading

namespace FormatterModules

namespace ModuleLoader

theorem readManifests_cons_error {a : Artifact} {rest : List Artifact} {e : Failure}
    (h : Manifest.parse a.location.text a.content = .error e) :
    readManifests (a :: rest) = .error e := by
  rw [readManifests, h]

theorem ofArtifacts_error {id : LoaderId} {engines : EngineTable} {artifacts : ArtifactSet}
    {shared : SharedNames} {e : Failure} (h : readManifests artifacts.artifacts = .error e) :
    ofArtifacts id engines artifacts shared = .error e := by
  rw [ofArtifacts, h]

theorem readManifests_copies {as bs : List Artifact} (h : List.Forall₂ Artifact.Copies as bs)
    {modules : List (Artifact × Manifest)} (hm : readManifests as = .ok modules) :
    ∃ others, readManifests bs = .ok others ∧
      ∀ id engines, declared id engines others = declared id engines modules := by
  induction h generalizing modules with
  | nil => exact ⟨modules, hm, fun _ _ => rfl⟩
  | @cons a b as bs hab _ ih =>
    unfold readManifests at hm ⊢
    cases hp : Manifest.parse a.location.text a.content with
    | error e => rw [hp] at hm; cases hm
    | ok m =>
      rw [hp] at hm
      cases ht : readManifests as with
      | error e => rw [ht] at hm; cases hm
      | ok rest =>
        rw [ht] at hm
        cases hm
        obtain ⟨others, hothers, hdeclared⟩ := ih ht
        have hb : Manifest.parse b.location.text b.content = .ok m := by
          rw [← hab.content]
          exact Manifest.parse_ok_of_parse_ok hp
        refine ⟨(b, m) :: others, by rw [hb, hothers]; rfl, ?_⟩
        intro id engines
        have htail := hdeclared id engines
        unfold declared at htail ⊢
        rw [List.flatMap_cons, htail, List.flatMap_cons, hab.identity]

theorem ofArtifacts_of_copies {artifacts others : ArtifactSet} (h : artifacts.Copies others)
    {id : LoaderId} {engines : EngineTable} {shared : SharedNames} {l : ModuleLoader}
    (hl : ofArtifacts id engines artifacts shared = .ok l) :
    ofArtifacts id engines others shared = .ok l := by
  have hkey : LoaderKey.of others shared = LoaderKey.of artifacts shared :=
    congrArg (LoaderKey.mk · shared) (ArtifactSet.identitySet_inj.mpr h.identities_eq.symm)
  unfold ofArtifacts at hl ⊢
  cases hm : readManifests artifacts.artifacts with
  | error e => rw [hm] at hl; cases hl
  | ok modules =>
    obtain ⟨read, hread, hdeclared⟩ := readManifests_copies h hm
    rw [hm] at hl
    rw [hread]
    change Except.ok _ = Except.ok l
    rw [hdeclared, hkey, ← h.identities_eq]
    exact hl

/-- Whatever was made for a key is what other artifacts with this key give. -/
theorem ofArtifacts_eq_of_key_eq {artifacts others : ArtifactSet} {shared shared' : SharedNames}
    {id : LoaderId} {engines : EngineTable} {l : ModuleLoader}
    (hc : CollisionFree (artifacts.contents ++ others.contents))
    (hkey : LoaderKey.of artifacts shared = LoaderKey.of others shared')
    (h : ofArtifacts id engines artifacts shared = .ok l) :
    ofArtifacts id engines others shared' = .ok l := by
  obtain ⟨hset, rfl⟩ := LoaderKey.mk.inj hkey
  exact ofArtifacts_of_copies
    (ArtifactSet.copies_of_identities_eq hc (ArtifactSet.identitySet_inj.mp hset)) h

theorem key_ofArtifacts {id : LoaderId} {engines : EngineTable} {artifacts : ArtifactSet}
    {shared : SharedNames} {l : ModuleLoader} (h : ofArtifacts id engines artifacts shared = .ok l) :
    l.id = id ∧ l.key = .of artifacts shared := by
  unfold ofArtifacts at h
  cases hm : readManifests artifacts.artifacts with
  | error e => rw [hm] at h; cases h
  | ok modules =>
    rw [hm] at h
    cases h
    exact ⟨rfl, rfl⟩

end ModuleLoader

end FormatterModules
