import FormatterModules.Configuration
import FormatterModules.Proofs.Loader.Cache
import FormatterModules.Proofs.Loader.Names
import FormatterModules.Proofs.Repository.Provisioning

namespace FormatterModules

namespace ArtifactSet

theorem manifest_ofLocations {files : FileTree} {locations : OrderedSet Path}
    {artifacts : ArtifactSet} (h : ofLocations files locations = .ok artifacts)
    (hc : CollisionFree (textsAt files locations.toList)) {m : Manifest} :
    (∃ a ∈ artifacts.artifacts, Manifest.parse a.location.text a.content = .ok m) ↔
      ∃ p ∈ locations.toList, files.HoldsManifest p m := by
  constructor
  · rintro ⟨a, ha, hparse⟩
    obtain ⟨p, hp, text, htext, rfl⟩ := exists_place_of_mem h ha
    exact ⟨p, hp, text, htext, hparse⟩
  · rintro ⟨p, hp, text, htext, hparse⟩
    obtain ⟨as, hread, rfl⟩ := exists_of_ofLocations h
    have hmem : Artifact.ofContent p text ∈ as :=
      (mem_readArtifacts hread).mpr ⟨p, hp, readArtifact_eq_ok.mpr ⟨text, htext, rfl⟩⟩
    obtain ⟨b, hb, hidentity⟩ := exists_mem_ofList hmem
    have hcontents : [b.content, text] ⊆ textsAt files locations.toList := by
      have hb' := contents_subset_textsAt h (List.mem_map_of_mem hb)
      have ht : text ∈ textsAt files locations.toList :=
        List.mem_filterMap.mpr ⟨p, hp, by rw [htext]; rfl⟩
      simp [hb', ht]
    have hcontent : b.content = text :=
      (Artifact.copies_of_identity_eq (hc.subset hcontents) hidentity).content
    refine ⟨b, hb, ?_⟩
    rw [hcontent]
    exact Manifest.parse_ok_of_parse_ok hparse

end ArtifactSet

namespace Configuration

variable {c : Configuration} {r : Repository} {flag? : Option StopFlag} {env env' : Environment}

/-- The places of the artifacts behind a configuration. -/
def locate (c : Configuration) (env : Environment) :
    Except Failure (OrderedSet Path) × Environment :=
  c.selection.locate c.dependency? c.defaults c.provisioner c.fetcher env

def locatedTexts (c : Configuration) (env : Environment) : List String :=
  match c.locate env with
  | (.error _, _) => []
  | (.ok locations, env) => ArtifactSet.textsAt env.files locations.toList

theorem locate_moduleUrl {url : Url} (h : c.moduleUrl? = some url) :
    c.locate env =
      ((c.fetcher.fetch url env).1.map .singleton, (c.fetcher.fetch url env).2) := by
  unfold locate selection
  rw [h]
  rfl

theorem locate_dependency {d : Coordinate} (hurl : c.moduleUrl? = none)
    (h : c.dependency? = some d) :
    c.locate env = c.provisioner.provision (.singleton d) env := by
  unfold locate selection
  rw [hurl, h]
  rfl

theorem locate_version (hurl : c.moduleUrl? = none) (h : c.dependency? = none) :
    c.locate env =
      match c.defaults.expand c.version with
      | .error e => (.error e, env)
      | .ok coordinates => c.provisioner.provision (.ofList coordinates) env := by
  unfold locate selection
  rw [hurl, h]
  rfl

theorem artifacts_eq :
    c.artifacts env =
      match c.locate env with
      | (.error e, env) => (.error e, env)
      | (.ok locations, env) =>
        if locations.isEmpty then
          (.error
            (.resolution (c.selection.describe c.dependency?) "no artifacts were provisioned"), env)
        else (ArtifactSet.ofLocations env.files locations, env) := rfl

theorem locate_of_artifacts {artifacts : ArtifactSet}
    (h : c.artifacts env = (.ok artifacts, env')) :
    ∃ locations, c.locate env = (.ok locations, env') ∧ locations.isEmpty = false ∧
      ArtifactSet.ofLocations env'.files locations = .ok artifacts := by
  rw [artifacts_eq] at h
  rcases hlocate : c.locate env with ⟨located, env''⟩
  rw [hlocate] at h
  cases located with
  | error e => cases h
  | ok locations =>
    dsimp only at h
    split at h
    · cases h
    · next hne =>
      obtain ⟨hread, rfl⟩ := Prod.mk.inj h
      exact ⟨locations, rfl, by simpa using hne, hread⟩

theorem artifacts_of_resolve {cache : LoaderCache} {state : EngineState}
    (h : (c.resolve cache env).1 = .ok state) :
    ∃ env', c.artifacts env = (.ok state.artifacts, env') ∧
      (cache.obtain state.artifacts c.shared).1 = .ok state.loader := by
  unfold resolve at h
  rcases hread : c.artifacts env with ⟨read, env'⟩
  rw [hread] at h
  cases read with
  | error e => cases h
  | ok artifacts =>
    dsimp only at h
    rcases hobtain : cache.obtain artifacts c.shared with ⟨loader, cache'⟩
    rw [hobtain] at h
    cases loader with
    | error e => cases h
    | ok loader =>
      dsimp only at h
      cases hpreferences : Preferences.readFiles env'.files c.preferenceFiles with
      | error e => rw [hpreferences] at h; cases h
      | ok preferences =>
        rw [hpreferences] at h
        cases h
        exact ⟨env', rfl, congrArg Prod.fst hobtain⟩

/-- The modules behind a configuration that is provisioned from a repository. -/
inductive Loads (c : Configuration) (r : Repository) (env : Environment) : Manifest → Prop
  | fetched {url : Url} {p : Path} {m : Manifest} (selected : c.moduleUrl? = some url)
      (fetched : (c.fetcher.fetch url env).1 = .ok p)
      (holds : (c.fetcher.fetch url env).2.files.HoldsManifest p m) : Loads c r env m
  | chosen {d e : Coordinate} {m : Manifest} (selected : c.moduleUrl? = none)
      (chosen : c.dependency? = some d) (reached : r.Reaches env.files d e)
      (holds : r.HasModule env.files e m) : Loads c r env m
  | derived {coordinates : List Coordinate} {d e : Coordinate} {m : Manifest}
      (selected : c.moduleUrl? = none) (unchosen : c.dependency? = none)
      (expanded : c.defaults.expand c.version = .ok coordinates) (listed : d ∈ coordinates)
      (reached : r.Reaches env.files d e) (holds : r.HasModule env.files e m) : Loads c r env m

theorem loads_of_moduleUrl {url : Url} (h : c.moduleUrl? = some url) {p : Path}
    (hp : (c.fetcher.fetch url env).1 = .ok p) {m : Manifest} :
    c.Loads r env m ↔ (c.fetcher.fetch url env).2.files.HoldsManifest p m := by
  constructor
  · intro hloads
    cases hloads with
    | fetched selected fetched holds =>
      cases h.symm.trans selected
      cases hp.symm.trans fetched
      exact holds
    | chosen selected => cases h.symm.trans selected
    | derived selected => cases h.symm.trans selected
  · exact .fetched h hp

theorem loads_of_dependency {d : Coordinate} (hurl : c.moduleUrl? = none)
    (h : c.dependency? = some d) {m : Manifest} :
    c.Loads r env m ↔ ∃ e, r.Reaches env.files d e ∧ r.HasModule env.files e m := by
  constructor
  · intro hloads
    cases hloads with
    | fetched selected => cases hurl.symm.trans selected
    | chosen selected chosen reached holds =>
      cases h.symm.trans chosen
      exact ⟨_, reached, holds⟩
    | derived selected unchosen => cases h.symm.trans unchosen
  · rintro ⟨e, reached, holds⟩
    exact .chosen hurl h reached holds

theorem loads_of_version {coordinates : List Coordinate} (hurl : c.moduleUrl? = none)
    (hd : c.dependency? = none) (h : c.defaults.expand c.version = .ok coordinates)
    {m : Manifest} :
    c.Loads r env m ↔
      ∃ d ∈ coordinates, ∃ e, r.Reaches env.files d e ∧ r.HasModule env.files e m := by
  constructor
  · intro hloads
    cases hloads with
    | fetched selected => cases hurl.symm.trans selected
    | chosen selected chosen => cases hd.symm.trans chosen
    | derived selected unchosen expanded listed reached holds =>
      cases h.symm.trans expanded
      exact ⟨_, listed, _, reached, holds⟩
  · rintro ⟨d, listed, e, reached, holds⟩
    exact .derived hurl hd h listed reached holds

theorem loads_iff (hprovisioner : c.provisioner = .ofRepository r flag?)
    {locations : OrderedSet Path} (h : c.locate env = (.ok locations, env')) {m : Manifest} :
    c.Loads r env m ↔ ∃ p ∈ locations.toList, env'.files.HoldsManifest p m := by
  cases hurl : c.moduleUrl? with
  | some url =>
    rw [locate_moduleUrl hurl] at h
    obtain ⟨hlocation, rfl⟩ := Prod.mk.inj h
    cases hp : (c.fetcher.fetch url env).1 with
    | error e => rw [hp] at hlocation; cases hlocation
    | ok p =>
      rw [hp] at hlocation
      cases hlocation
      rw [loads_of_moduleUrl hurl hp]
      simp [OrderedSet.singleton]
  | none =>
    cases hd : c.dependency? with
    | some d =>
      rw [locate_dependency hurl hd, hprovisioner] at h
      rw [loads_of_dependency hurl hd, Provisioner.manifest_ofRepository h]
      simp [OrderedSet.singleton]
    | none =>
      rw [locate_version hurl hd, hprovisioner] at h
      cases hexpand : c.defaults.expand c.version with
      | error e => rw [hexpand] at h; cases h
      | ok coordinates =>
        rw [hexpand] at h
        rw [loads_of_version hurl hd hexpand, Provisioner.manifest_ofRepository h]
        simp only [OrderedSet.mem_ofList_iff]

theorem resolve_of_moduleUrl {url : Url} (h : c.moduleUrl? = some url) (provisioner : Provisioner)
    (defaults : Coordinate.Template) (dependency? : Option Coordinate) (cache : LoaderCache)
    (env : Environment) :
    { c with provisioner, defaults, dependency? }.resolve cache env = c.resolve cache env := by
  have hartifacts :
      { c with provisioner, defaults, dependency? }.artifacts env = c.artifacts env := by
    unfold artifacts selection
    rw [h]
    rfl
  unfold resolve
  rw [hartifacts]

theorem resolve_of_dependency {d : Coordinate} (hurl : c.moduleUrl? = none)
    (h : c.dependency? = some d) (defaults : Coordinate.Template) (cache : LoaderCache)
    (env : Environment) : { c with defaults }.resolve cache env = c.resolve cache env := by
  have hartifacts : { c with defaults }.artifacts env = c.artifacts env := by
    unfold artifacts selection
    rw [hurl, h]
    rfl
  unfold resolve
  rw [hartifacts]

/-- The classes of a resolved configuration are those of the modules behind it and the shared ones,
and there is at least one module. A module URL leaves coordinates and their provisioner out of it,
and a chosen dependency those that derive from the version. -/
theorem visible_classes (engines : EngineTable) (history : List LoaderCache.Request)
    (c : Configuration) (r : Repository) (flag? : Option StopFlag)
    (hprovisioner : c.provisioner = .ofRepository r flag?) (env : Environment) (state : EngineState)
    (hc : CollisionFree (c.locatedTexts env ++ LoaderCache.requestedTexts history))
    (hstate : (c.resolve ((LoaderCache.ofEngines engines).after history) env).1 = .ok state) :
    (∀ name, (∃ cls, state.lookup name = .ok cls) ↔
      c.shared.contains name = true ∨ ∃ m, c.Loads r env m ∧ name ∈ m.classNames) ∧
    state.artifacts.isEmpty = false ∧
    (∀ url, c.moduleUrl? = some url → ∀ provisioner defaults dependency? cache,
      { c with provisioner, defaults, dependency? }.resolve cache env = c.resolve cache env) ∧
    ∀ d, c.moduleUrl? = none → c.dependency? = some d → ∀ defaults cache,
      { c with defaults }.resolve cache env = c.resolve cache env := by
  obtain ⟨env', hartifacts, hobtain⟩ := artifacts_of_resolve hstate
  obtain ⟨locations, hlocate, hne, hread⟩ := locate_of_artifacts hartifacts
  have htexts : c.locatedTexts env = ArtifactSet.textsAt env'.files locations.toList := by
    rw [locatedTexts, hlocate]
  rw [htexts] at hc
  refine ⟨fun name => ?_, ArtifactSet.isEmpty_ofLocations hread hne, ?_, ?_⟩
  · have hcontents := ArtifactSet.contents_subset_textsAt hread
    -- The cache may answer with the loader of an earlier request, made of other artifacts with the
    -- same identities. Without collisions these have the same texts.
    have hrequested : LoaderCache.requestedTexts (⟨state.artifacts, c.shared⟩ :: history) ⊆
        ArtifactSet.textsAt env'.files locations.toList ++ LoaderCache.requestedTexts history :=
      List.append_subset.mpr
        ⟨List.Subset.trans hcontents (List.subset_append_left _ _), List.subset_append_right _ _⟩
    obtain ⟨id, hdefined⟩ :=
      (LoaderCache.recorded_after engines history).obtain_eq (hc.subset hrequested)
    have hloader := hdefined.symm.trans hobtain
    have hmanifests : ∀ m, (∃ a ∈ state.artifacts.artifacts,
        Manifest.parse a.location.text a.content = .ok m) ↔ c.Loads r env m := by
      intro m
      rw [loads_iff hprovisioner hlocate]
      exact ArtifactSet.manifest_ofLocations hread (hc.subset (List.subset_append_left _ _))
    rw [EngineState.lookup, ModuleLoader.lookup_ofArtifacts hloader]
    simp only [hmanifests]
  · exact fun url hurl provisioner defaults dependency? cache =>
      resolve_of_moduleUrl hurl provisioner defaults dependency? cache env
  · exact fun d hurl hd defaults cache => resolve_of_dependency hurl hd defaults cache env

open Repository

/-- A configuration whose default module is the first of a pair. -/
def pairConfiguration : Configuration :=
  .new "engine" (.ofRepository pair none)
    ⟨[(Version.parse? "1").get (by decide +kernel)], by simp⟩ ⟨["g:a:\x7bversion\x7d"]⟩ ⟨"/tmp"⟩

def pairEnvironment : Environment := .ofFiles pairFiles ⟨"/tmp"⟩

def pairPlaces : OrderedSet Path :=
  .union .empty ((Collection.start.add pair firstOfPair).add pair secondOfPair).found

theorem expand_pair :
    pairConfiguration.defaults.expand pairConfiguration.version = .ok [firstOfPair] := by
  decide +kernel

theorem locate_pair :
    pairConfiguration.locate pairEnvironment = (.ok pairPlaces, pairEnvironment) := by
  rw [locate_version rfl rfl, expand_pair]
  change (Provisioner.resolveAll pair pairFiles .empty [firstOfPair], pairEnvironment) = _
  rw [Provisioner.resolveAll, pair_collects.closure_eq]
  exact rfl

theorem visible_classes_pair :
    ∃ state, (pairConfiguration.resolve (.ofEngines .builtins) pairEnvironment).1 = .ok state ∧
      state.artifacts.isEmpty = false ∧ ∃ cls, state.lookup "B" = .ok cls := by
  obtain ⟨state, hstate⟩ : ∃ state,
      (pairConfiguration.resolve (.ofEngines .builtins) pairEnvironment).1 = .ok state := by
    have hok : (pairConfiguration.resolve (.ofEngines .builtins)
        pairEnvironment).1.isOk = true := by
      rw [resolve, artifacts_eq, locate_pair]
      decide +kernel
    cases h : (pairConfiguration.resolve (.ofEngines .builtins) pairEnvironment).1 with
    | error e => rw [h] at hok; cases hok
    | ok state => exact ⟨state, rfl⟩
  have htexts : pairConfiguration.locatedTexts pairEnvironment ++ LoaderCache.requestedTexts [] =
      [pairText "a" "g:b:1" "A", pairText "b" "g:a:1" "B"] := by
    rw [locatedTexts, locate_pair]
    decide +kernel
  have hcollision : CollisionFree
      (pairConfiguration.locatedTexts pairEnvironment ++ LoaderCache.requestedTexts []) := by
    have hne : sha256OfText (pairText "a" "g:b:1" "A") ≠
        sha256OfText (pairText "b" "g:a:1" "B") := by decide +kernel
    rw [htexts]
    exact collisionFree_pair fun h => absurd h hne
  obtain ⟨hnames, hne, -⟩ := visible_classes .builtins [] pairConfiguration pair none rfl
    pairEnvironment state hcollision hstate
  have hloads : pairConfiguration.Loads pair pairEnvironment
      ⟨⟨"g", "b", "1", [firstOfPair]⟩, [⟨"B", "indent", ["format"]⟩]⟩ :=
    .derived rfl rfl expand_pair List.mem_cons_self pair_reaches
      ((pair.manifest_eq_ok _).mp pair_second)
  exact ⟨state, hstate, hne, (hnames "B").mpr (.inr ⟨_, hloads, List.mem_cons_self⟩)⟩

end Configuration

end FormatterModules
