import FormatterModules.Loader
import FormatterModules.Proofs.Failure.Sequence
import FormatterModules.Proofs.Ordered.Map

namespace FormatterModules

/-- The names of the classes that a module declares. -/
def Manifest.classNames (m : Manifest) : List String := m.classes.map Manifest.Declaration.name

namespace ModuleLoader

/-- An artifact with its manifest. -/
def readManifest (a : Artifact) : Except Failure (Artifact × Manifest) :=
  (Manifest.parse a.location.text a.content).map fun m => (a, m)

theorem readManifest_eq_ok_iff {a b : Artifact} {m : Manifest} :
    readManifest a = .ok (b, m) ↔ a = b ∧ Manifest.parse a.location.text a.content = .ok m := by
  unfold readManifest
  cases Manifest.parse a.location.text a.content <;> simp [Except.map]

theorem readManifest_eq_error_iff {a : Artifact} {e : Failure} :
    readManifest a = .error e ↔ Manifest.parse a.location.text a.content = .error e := by
  unfold readManifest
  cases Manifest.parse a.location.text a.content <;> simp [Except.map]

theorem readManifests_eq_mapM (as : List Artifact) : readManifests as = as.mapM readManifest := by
  induction as with
  | nil => rfl
  | cons a as ih =>
    unfold readManifests
    cases ha : Manifest.parse a.location.text a.content with
    | error e => rw [Failure.mapM_cons_of_error (readManifest_eq_error_iff.mpr ha)]
    | ok m =>
      have hread : readManifest a = .ok (a, m) := readManifest_eq_ok_iff.mpr ⟨rfl, ha⟩
      rw [Failure.mapM_cons_of_ok hread, ih]

theorem mem_readManifests {as : List Artifact} {modules : List (Artifact × Manifest)}
    (h : readManifests as = .ok modules) {a : Artifact} {m : Manifest} :
    (a, m) ∈ modules ↔ a ∈ as ∧ Manifest.parse a.location.text a.content = .ok m := by
  rw [readManifests_eq_mapM] at h
  simp only [Failure.mem_iff_of_mapM_eq_ok h, readManifest_eq_ok_iff]
  constructor
  · rintro ⟨b, hb, rfl, hm⟩
    exact ⟨hb, hm⟩
  · rintro ⟨ha, hm⟩
    exact ⟨a, ha, rfl, hm⟩

theorem mem_names_declared {id : LoaderId} {engines : EngineTable}
    {modules : List (Artifact × Manifest)} {name : String} :
    name ∈ (declared id engines modules).map ModuleClass.name ↔
      ∃ a m, (a, m) ∈ modules ∧ name ∈ m.classNames := by
  simp only [declared, List.map_flatMap, List.map_map, List.mem_flatMap, Prod.exists]
  rfl

theorem mem_keys_addClass {shared : SharedNames} {classes : OrderedMap String ModuleClass}
    {c : ModuleClass} {name : String} :
    name ∈ (addClass shared classes c).keys ↔
      name ∈ classes.keys ∨ shared.contains name = false ∧ name = c.name := by
  unfold addClass
  split
  · next h =>
    refine ⟨.inl, fun hname => hname.resolve_right ?_⟩
    rintro ⟨hfree, rfl⟩
    rw [h] at hfree
    cases hfree
  · next h =>
    rw [OrderedMap.mem_keys_insertIfNew_iff, or_comm]
    refine or_congr_right ⟨?_, And.right⟩
    rintro rfl
    exact ⟨by simpa using h, rfl⟩

theorem mem_keys_foldl_addClass {shared : SharedNames} {classes : OrderedMap String ModuleClass}
    {cs : List ModuleClass} {name : String} :
    name ∈ (cs.foldl (addClass shared) classes).keys ↔
      name ∈ classes.keys ∨ shared.contains name = false ∧ name ∈ cs.map ModuleClass.name := by
  induction cs generalizing classes with
  | nil => simp
  | cons c cs ih =>
    rw [List.foldl_cons, ih, mem_keys_addClass, List.map_cons, List.mem_cons, or_assoc,
      ← and_or_left]

theorem lookup_ok_iff {l : ModuleLoader} {name : String} :
    (∃ c, l.lookup name = .ok c) ↔ l.key.shared.contains name = true ∨ name ∈ l.classNames := by
  have hclass : (∃ c, l.lookup name = .ok c) ↔ (l.find? name).isSome = true := by
    unfold lookup
    cases l.find? name <;> simp
  rw [hclass, find?]
  split
  · next h => simp [h]
  · next h =>
    change l.classes.contains name = true ↔ _
    rw [OrderedMap.contains_iff, or_iff_right h]
    rfl

theorem lookup_ofArtifacts {id : LoaderId} {engines : EngineTable} {artifacts : ArtifactSet}
    {shared : SharedNames} {l : ModuleLoader} (h : ofArtifacts id engines artifacts shared = .ok l)
    (name : String) :
    (∃ c, l.lookup name = .ok c) ↔
      shared.contains name = true ∨
        ∃ m, (∃ a ∈ artifacts.artifacts, Manifest.parse a.location.text a.content = .ok m) ∧
          name ∈ m.classNames := by
  rw [lookup_ok_iff]
  unfold ofArtifacts at h
  cases hm : readManifests artifacts.artifacts with
  | error e => rw [hm] at h; cases h
  | ok modules =>
    rw [hm] at h
    cases h
    change shared.contains name = true ∨
      name ∈ ((declared id engines modules).foldl (addClass shared) .empty).keys ↔ _
    have hdeclared : name ∈ (declared id engines modules).map ModuleClass.name ↔
        ∃ m, (∃ a ∈ artifacts.artifacts, Manifest.parse a.location.text a.content = .ok m) ∧
          name ∈ m.classNames := by
      rw [mem_names_declared, exists_comm]
      simp only [mem_readManifests hm, exists_and_right]
    rw [mem_keys_foldl_addClass, hdeclared]
    by_cases hshared : shared.contains name = true
    · simp [hshared]
    · simp [hshared, OrderedMap.keys, OrderedMap.empty]

end ModuleLoader

end FormatterModules
