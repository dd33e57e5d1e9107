import FormatterModules.Proofs.Artifact.Locations
import FormatterModules.Proofs.Loader.Contents
import FormatterModules.Proofs.Loader.Names

namespace FormatterModules

namespace ArtifactSet

/-- The declarations in all artifacts, in their order, each with the name of the file. -/
def declarations (s : ArtifactSet) : List (String × Manifest.Declaration) :=
  s.artifacts.flatMap fun a =>
    (Manifest.declarationsIn a.content).map fun d => (a.identity.fileName, d)

end ArtifactSet

namespace ModuleLoader

variable {id : LoaderId} {engines : EngineTable} {artifacts others : ArtifactSet}
  {shared : SharedNames}

theorem exists_readManifest_eq_ok_iff {a : Artifact} :
    (∃ am, readManifest a = .ok am) ↔ Manifest.IsWellFormed a.content := by
  simp only [Prod.exists, readManifest_eq_ok_iff, exists_and_left, exists_eq_left',
    Manifest.exists_parse_eq_ok_iff]

theorem exists_ofArtifacts_eq_ok_iff :
    (∃ l, ofArtifacts id engines artifacts shared = .ok l) ↔
      ∀ a ∈ artifacts.artifacts, Manifest.IsWellFormed a.content := by
  have hread : (∃ modules, readManifests artifacts.artifacts = .ok modules) ↔
      ∀ a ∈ artifacts.artifacts, Manifest.IsWellFormed a.content := by
    rw [readManifests_eq_mapM, Failure.exists_mapM_eq_ok_iff]
    simp only [exists_readManifest_eq_ok_iff]
  rw [← hread, ofArtifacts]
  cases readManifests artifacts.artifacts <;> simp

theorem ofArtifacts_eq_error_iff {e : Failure} :
    ofArtifacts id engines artifacts shared = .error e ↔
      ∃ a ∈ artifacts.artifacts, Manifest.parse a.location.text a.content = .error e ∧
        ∀ b ∈ artifacts.artifacts, compare b.identity a.identity = .lt →
          Manifest.IsWellFormed b.content := by
  have hread : ofArtifacts id engines artifacts shared = .error e ↔
      readManifests artifacts.artifacts = .error e := by
    unfold ofArtifacts
    cases readManifests artifacts.artifacts <;> simp
  rw [hread, readManifests_eq_mapM, Failure.mapM_eq_error_iff_of_ascending artifacts.ascending]
  simp only [readManifest_eq_error_iff, exists_readManifest_eq_ok_iff]
  rfl

theorem get?_addClass {name : String} (h : shared.contains name = false)
    (classes : OrderedMap String ModuleClass) (c : ModuleClass) :
    (addClass shared classes c).get? name =
      (classes.get? name).or (if c.name = name then some c else none) := by
  unfold addClass
  split
  · next hc =>
    have hne : c.name ≠ name := fun he => by simp [he, h] at hc
    rw [if_neg hne, Option.or_none]
  · rw [OrderedMap.get?_insertIfNew]
    simp only [eq_comm]

theorem get?_foldl_addClass {name : String} (h : shared.contains name = false)
    (classes : OrderedMap String ModuleClass) (cs : List ModuleClass) :
    (cs.foldl (addClass shared) classes).get? name =
      (classes.get? name).or (cs.find? fun c => c.name = name) := by
  induction cs generalizing classes with
  | nil => simp
  | cons c cs ih =>
    rw [List.foldl_cons, ih, get?_addClass h, Option.or_assoc, List.find?_cons]
    by_cases hc : c.name = name <;> simp [hc]

theorem declared_eq_map {modules : List (Artifact × Manifest)}
    (h : readManifests artifacts.artifacts = .ok modules) :
    declared id engines modules =
      artifacts.declarations.map fun od => classOf id engines od.1 od.2 := by
  unfold declared ArtifactSet.declarations
  generalize artifacts.artifacts = as at h
  rw [readManifests_eq_mapM, Failure.mapM_eq_ok_iff] at h
  induction h with
  | nil => rfl
  | @cons a am as modules ha _ ih =>
    obtain ⟨rfl, hm⟩ := readManifest_eq_ok_iff.mp ha
    rw [List.flatMap_cons, ih, List.flatMap_cons, List.map_append,
      Manifest.declarationsIn_of_parse hm, List.map_map]
    rfl

theorem find?_of_ofArtifacts {l : ModuleLoader}
    (h : ofArtifacts id engines artifacts shared = .ok l) (name : String) :
    l.find? name =
      if shared.contains name then some (.ofHost name)
      else (artifacts.declarations.find? fun od => od.2.name = name).map
        fun od => classOf id engines od.1 od.2 := by
  unfold ofArtifacts at h
  cases hm : readManifests artifacts.artifacts with
  | error e => rw [hm] at h; cases h
  | ok modules =>
    rw [hm] at h
    cases h
    unfold find?
    change (if shared.contains name then _ else _) = _
    by_cases hshared : shared.contains name = true
    · rw [if_pos hshared, if_pos hshared]
    · rw [if_neg hshared, if_neg hshared,
        get?_foldl_addClass (eq_false_of_ne_true hshared), OrderedMap.get?_empty, Option.none_or,
        declared_eq_map hm, List.find?_map]
      rfl

theorem origins_of_ofArtifacts {l : ModuleLoader}
    (h : ofArtifacts id engines artifacts shared = .ok l) :
    l.origins = artifacts.identities.map ArtifactIdentity.fileName := by
  unfold ofArtifacts at h
  cases hm : readManifests artifacts.artifacts with
  | error e => rw [hm] at h; cases h
  | ok modules =>
    rw [hm] at h
    cases h
    rfl

theorem lookup_of_ofArtifacts {l : ModuleLoader}
    (h : ofArtifacts id engines artifacts shared = .ok l) (name : String) :
    l.lookup name =
      if shared.contains name then .ok (.ofHost name)
      else
        match artifacts.declarations.find? fun od => od.2.name = name with
        | some (origin, d) =>
          .ok ⟨name, some d.entry, d.methods, some id, origin, engines.find? d.entry⟩
        | none =>
          .error (.invalidArgument ("Class '" ++ name ++ "' not found in module(s): " ++
            Text.join ", " (artifacts.identities.map ArtifactIdentity.fileName))) := by
  unfold lookup
  rw [find?_of_ofArtifacts h, origins_of_ofArtifacts h]
  by_cases hshared : shared.contains name = true
  · rw [if_pos hshared, if_pos hshared]
  · rw [if_neg hshared, if_neg hshared]
    cases hfound : artifacts.declarations.find? fun od => od.2.name = name with
    | none => rfl
    | some od =>
      have hname : od.2.name = name := by simpa using List.find?_some hfound
      subst hname
      rfl

theorem ofArtifacts_error_of_holdSame (h : artifacts.HoldSame others) {e : Failure}
    (he : ofArtifacts id engines artifacts shared = .error e) :
    ∃ a ∈ artifacts.artifacts, ∃ b ∈ others.artifacts, ∃ details,
      a.Copies b ∧ e = .parse a.location.text details ∧
        ofArtifacts id engines others shared = .error (.parse b.location.text details) := by
  obtain ⟨a, ha, hparse, hless⟩ := ofArtifacts_eq_error_iff.mp he
  obtain ⟨b, hb, hab⟩ := h.left a ha
  obtain ⟨details, rfl, hdetails⟩ := Manifest.exists_details_of_parse_eq_error hparse
  refine ⟨a, ha, b, hb, details, hab, rfl, ofArtifacts_eq_error_iff.mpr ⟨b, hb, ?_, ?_⟩⟩
  · rw [← hab.content]
    exact hdetails _
  · -- Copies have one identity, so what is less than `b` has a copy that is less than `a`.
    intro c hc hlt
    obtain ⟨d, hd, hdc⟩ := h.right c hc
    rw [← hdc.content]
    rw [← hab.identity, ← hdc.identity] at hlt
    exact hless d hd hlt

/-- A loader results if and only if all manifests are well-formed, and else the failure is that of the
least artifact, by name and digest, whose manifest is not. A loader has the host's class under a shared
name, and under every other name the class of the first declaration of the name in the manifests, read
one after another. The same artifacts at other places, listed in whatever order, give the same loader,
or a failure that says the same of the same artifact and differs only in the place that it names. -/
theorem first_declaration_wins (id : LoaderId) (engines : EngineTable) (artifacts : ArtifactSet)
    (shared : SharedNames) :
    ((∃ l, ofArtifacts id engines artifacts shared = .ok l) ↔
      ∀ a ∈ artifacts.artifacts, Manifest.IsWellFormed a.content) ∧
    (∀ e, ofArtifacts id engines artifacts shared = .error e ↔
      ∃ a ∈ artifacts.artifacts, Manifest.parse a.location.text a.content = .error e ∧
        ∀ b ∈ artifacts.artifacts, compare b.identity a.identity = .lt →
          Manifest.IsWellFormed b.content) ∧
    (∀ l, ofArtifacts id engines artifacts shared = .ok l → ∀ name,
      l.lookup name =
        if shared.contains name then .ok (.ofHost name)
        else
          match artifacts.declarations.find? fun od => od.2.name = name with
          | some (origin, d) =>
            .ok ⟨name, some d.entry, d.methods, some id, origin, engines.find? d.entry⟩
          | none =>
            .error (.invalidArgument ("Class '" ++ name ++ "' not found in module(s): " ++
              Text.join ", " (artifacts.identities.map ArtifactIdentity.fileName)))) ∧
    (∀ others, artifacts.HoldSame others →
      (∀ l, ofArtifacts id engines artifacts shared = .ok l ↔
        ofArtifacts id engines others shared = .ok l) ∧
      ∀ e, ofArtifacts id engines artifacts shared = .error e →
        ∃ a ∈ artifacts.artifacts, ∃ b ∈ others.artifacts, ∃ details,
          a.Copies b ∧ e = .parse a.location.text details ∧
            ofArtifacts id engines others shared = .error (.parse b.location.text details)) ∧
    ∀ files elsewhere locations places others,
      ArtifactSet.ofLocations files locations = .ok artifacts →
      ArtifactSet.ofLocations elsewhere places = .ok others →
      (∀ name text, ArtifactSet.ReadUnder files locations name text ↔
        ArtifactSet.ReadUnder elsewhere places name text) →
      CollisionFree (ArtifactSet.textsAt files locations.toList) → artifacts.HoldSame others := by
  refine ⟨exists_ofArtifacts_eq_ok_iff, fun e => ofArtifacts_eq_error_iff,
    fun l h name => lookup_of_ofArtifacts h name, fun others h => ⟨fun l => ?_, fun e => ?_⟩, ?_⟩
  · exact ⟨ofArtifacts_of_copies h.copies, ofArtifacts_of_copies h.symm.copies⟩
  · exact ofArtifacts_error_of_holdSame h
  · exact fun files elsewhere locations places others hs ht hsame hc =>
      ArtifactSet.holdSame_ofLocations hs ht hsame hc

def declaring (cls entry : String) : String :=
  "[module]\ngroup='g'\nname='n'\nversion='1'\n[[class]]\nname='" ++ cls ++ "'\nentry='" ++ entry ++
    "'\n"

/-- Two modules that declare the same class, and one that declares a class of the host. -/
def rivals : ArtifactSet where
  artifacts :=
    [.ofContent ⟨"r/a"⟩ (declaring "C" "indent"), .ofContent ⟨"r/b"⟩ (declaring "C" "none"),
      .ofContent ⟨"r/c"⟩ (declaring SharedNames.engineInterface "indent")]
  ascending := Artifact.ascending_of_fileNames (by decide +kernel)

def moduleTwice : FileTree where
  workingDirectory := []
  nodes := .ofList
    [(["r"], .directory), (["r", "m"], .file (Bytes.ofText (declaring "C" "indent"))),
      (["s"], .directory), (["s", "m"], .file (Bytes.ofText (declaring "C" "indent")))]

theorem read_moduleTwice :
    moduleTwice.readText ⟨"r/m"⟩ = .ok (declaring "C" "indent") ∧
      moduleTwice.readText ⟨"s/m"⟩ = .ok (declaring "C" "indent") := by
  decide +kernel

theorem first_declaration_wins_rivals :
    (∃ l, ofArtifacts ⟨1⟩ .builtins rivals .standard = .ok l ∧
      l.lookup "C" =
        .ok ⟨"C", some "indent", ["format"], some ⟨1⟩, "a", EngineTable.builtins.find? "indent"⟩ ∧
      l.lookup SharedNames.engineInterface = .ok (.ofHost SharedNames.engineInterface) ∧
      l.lookup "D" =
        .error (.invalidArgument "Class 'D' not found in module(s): a, b, c")) ∧
    ∃ s t l, ArtifactSet.ofLocations moduleTwice (.singleton ⟨"r/m"⟩) = .ok s ∧
      ArtifactSet.ofLocations moduleTwice (.singleton ⟨"s/m"⟩) = .ok t ∧
      ofArtifacts ⟨1⟩ .builtins s .standard = .ok l ∧
      ofArtifacts ⟨1⟩ .builtins t .standard = .ok l := by
  constructor
  · obtain ⟨hok, -, hlookup, -⟩ := first_declaration_wins ⟨1⟩ .builtins rivals .standard
    obtain ⟨l, hl⟩ := hok.mpr (by decide +kernel)
    have hdeclarations : rivals.declarations =
        [("a", ⟨"C", "indent", ["format"]⟩), ("b", ⟨"C", "none", ["format"]⟩),
          ("c", ⟨SharedNames.engineInterface, "indent", ["format"]⟩)] := by
      decide +kernel
    have hnames : rivals.identities.map ArtifactIdentity.fileName = ["a", "b", "c"] := by
      decide +kernel
    refine ⟨l, hl, ?_, ?_, ?_⟩
    · rw [hlookup l hl, hdeclarations]
      rfl
    · rw [hlookup l hl]
      rfl
    · rw [hlookup l hl, hdeclarations, hnames]
      rfl
  · obtain ⟨hread, hread'⟩ := read_moduleTwice
    obtain ⟨s, hs⟩ := ArtifactSet.exists_ofLocations_singleton hread
    obtain ⟨t, ht⟩ := ArtifactSet.exists_ofLocations_singleton hread'
    obtain ⟨hok, -, -, hsame, hplaces⟩ := first_declaration_wins ⟨1⟩ .builtins s .standard
    have hhold : s.HoldSame t := by
      refine hplaces _ _ _ _ t hs ht (fun name text => ?_) ?_
      · rw [ArtifactSet.readUnder_singleton hread, ArtifactSet.readUnder_singleton hread']
        have hname : (⟨"r/m"⟩ : Path).lastName = (⟨"s/m"⟩ : Path).lastName := by decide +kernel
        rw [hname]
      · exact ArtifactSet.collisionFree_singleton hread
    have hwellformed : Manifest.IsWellFormed (declaring "C" "indent") := by decide +kernel
    obtain ⟨l, hl⟩ := hok.mpr fun a ha => by
      rwa [ArtifactSet.content_of_singleton hread hs ha]
    exact ⟨s, t, l, hs, ht, hl, ((hsame t hhold).1 l).mp hl⟩

def malformedAt (place : String) : ArtifactSet := .ofList [.ofContent ⟨place⟩ "m"]

theorem failure_names_the_place :
    (malformedAt "s/m").HoldSame (malformedAt "t/m") ∧
      ofArtifacts ⟨1⟩ .builtins (malformedAt "s/m") .standard =
        .error (.parse "s/m" Failure.tomlDiagnostic) ∧
      ofArtifacts ⟨1⟩ .builtins (malformedAt "t/m") .standard =
        .error (.parse "t/m" Failure.tomlDiagnostic) := by
  have hcopies : (Artifact.ofContent ⟨"s/m"⟩ "m").Copies (.ofContent ⟨"t/m"⟩ "m") :=
    Artifact.copies_ofContent (by decide +kernel) "m"
  have hparse : ∀ place, Manifest.parse place "m" = .error (.parse place Failure.tomlDiagnostic) := by
    have hnone : Manifest.decode? "m" = none := by decide +kernel
    intro place
    rw [Manifest.parse, hnone]
  refine ⟨⟨fun a ha => ?_, fun b hb => ?_⟩, ?_, ?_⟩
  · rw [List.mem_singleton.mp ha]
    exact ⟨_, List.mem_singleton_self _, hcopies⟩
  · rw [List.mem_singleton.mp hb]
    exact ⟨_, List.mem_singleton_self _, hcopies⟩
  · exact ofArtifacts_error (readManifests_cons_error (hparse _))
  · exact ofArtifacts_error (readManifests_cons_error (hparse _))

end ModuleLoader

end FormatterModules
