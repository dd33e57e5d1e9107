import FormatterModules.Proofs.Configuration.Visibility
import FormatterModules.Proofs.Coordinate.Template

namespace FormatterModules

namespace Configuration

variable {c : Configuration} {cache : LoaderCache} {env env' : Environment} {e : Failure}

/-- The coordinates that the provisioner is asked for: the chosen one, or else those that the template
makes of the version. -/
inductive Requests (c : Configuration) : OrderedSet Coordinate → Prop
  | chosen {d : Coordinate} (selected : c.moduleUrl? = none) (chosen : c.dependency? = some d) :
      Requests c (.singleton d)
  | derived {coordinates : List Coordinate} (selected : c.moduleUrl? = none)
      (unchosen : c.dependency? = none) (expanded : c.defaults.expand c.version = .ok coordinates) :
      Requests c (.ofList coordinates)

/-- Who failed in a resolution, and with what. -/
inductive Hindrance (c : Configuration) (cache : LoaderCache) (env : Environment) : Failure → Prop
  | fetcher {url : Url} {e : Failure} (selected : c.moduleUrl? = some url)
      (failed : (c.fetcher.fetch url env).1 = .error e) : Hindrance c cache env e
  | provisioner {coordinates : OrderedSet Coordinate} {e : Failure}
      (requested : c.Requests coordinates)
      (failed : (c.provisioner.provision coordinates env).1 = .error e) : Hindrance c cache env e
  | noPlaces {locations : OrderedSet Path} {env' : Environment}
      (located : c.locate env = (.ok locations, env')) (empty : locations.isEmpty = true) :
      Hindrance c cache env
        (.resolution (c.selection.describe c.dependency?) "no artifacts were provisioned")
  | artifact {locations : OrderedSet Path} {env' : Environment} {e : Failure}
      (located : c.locate env = (.ok locations, env')) (listed : locations.isEmpty = false)
      (failed : ArtifactSet.ofLocations env'.files locations = .error e) : Hindrance c cache env e
  | loader {artifacts : ArtifactSet} {env' : Environment} {e : Failure}
      (read : c.artifacts env = (.ok artifacts, env'))
      (failed : (cache.obtain artifacts c.shared).1 = .error e) : Hindrance c cache env e
  | preferences {artifacts : ArtifactSet} {env' : Environment} {loader : ModuleLoader} {e : Failure}
      (read : c.artifacts env = (.ok artifacts, env'))
      (loaded : (cache.obtain artifacts c.shared).1 = .ok loader)
      (failed : Preferences.readFiles env'.files c.preferenceFiles = .error e) :
      Hindrance c cache env e

theorem locate_of_requests {coordinates : OrderedSet Coordinate} (h : c.Requests coordinates) :
    c.locate env = c.provisioner.provision coordinates env := by
  cases h with
  | chosen selected chosen => exact locate_dependency selected chosen
  | derived selected unchosen expanded => rw [locate_version selected unchosen, expanded]

theorem exists_moduleUrl_or_requests {patterns : List String}
    (h : Coordinate.Template.ofList patterns = .ok c.defaults) :
    (∃ url, c.moduleUrl? = some url) ∨ ∃ coordinates, c.Requests coordinates := by
  cases hurl : c.moduleUrl? with
  | some url => exact .inl ⟨url, rfl⟩
  | none =>
    cases hd : c.dependency? with
    | some d => exact .inr ⟨_, .chosen hurl hd⟩
    | none =>
      obtain ⟨coordinates, hexpand, -⟩ := Coordinate.Template.expand_eq_ok h c.version
      exact .inr ⟨_, .derived hurl hd hexpand⟩

theorem artifacts_of_locate_error (h : (c.locate env).1 = .error e) :
    (c.artifacts env).1 = .error e := by
  rw [artifacts_eq]
  rcases hlocate : c.locate env with ⟨located, env'⟩
  rw [hlocate] at h
  obtain rfl : located = .error e := h
  rfl

theorem resolve_of_artifacts_error (h : (c.artifacts env).1 = .error e) :
    (c.resolve cache env).1 = .error e := by
  rw [resolve]
  rcases hread : c.artifacts env with ⟨read, env'⟩
  rw [hread] at h
  obtain rfl : read = .error e := h
  rfl

theorem resolve_of_artifacts_ok {artifacts : ArtifactSet}
    (h : c.artifacts env = (.ok artifacts, env')) :
    (c.resolve cache env).1 =
      match (cache.obtain artifacts c.shared).1 with
      | .error e => .error e
      | .ok loader =>
        (Preferences.readFiles env'.files c.preferenceFiles).map fun preferences =>
          ⟨c.version, c.moduleUrl?, artifacts, preferences, loader⟩ := by
  unfold resolve
  rw [h]
  dsimp only
  rcases cache.obtain artifacts c.shared with ⟨loader, cache'⟩
  cases loader with
  | error e => rfl
  | ok loader => cases Preferences.readFiles env'.files c.preferenceFiles <;> rfl

theorem Hindrance.resolve_eq (h : c.Hindrance cache env e) : (c.resolve cache env).1 = .error e := by
  cases h with
  | fetcher selected failed =>
    refine resolve_of_artifacts_error (artifacts_of_locate_error ?_)
    rw [locate_moduleUrl selected, failed]
    rfl
  | provisioner requested failed =>
    refine resolve_of_artifacts_error (artifacts_of_locate_error ?_)
    rw [locate_of_requests requested, failed]
  | noPlaces located empty =>
    refine resolve_of_artifacts_error ?_
    rw [artifacts_eq, located]
    simp only [empty, if_true]
  | artifact located listed failed =>
    refine resolve_of_artifacts_error ?_
    rw [artifacts_eq, located]
    simp only [listed, Bool.false_eq_true, if_false, failed]
  | loader read failed => rw [resolve_of_artifacts_ok read, failed]
  | preferences read loaded failed =>
    rw [resolve_of_artifacts_ok read, loaded, failed]
    rfl

theorem hindrance_of_artifacts_error {patterns : List String}
    (hdefaults : Coordinate.Template.ofList patterns = .ok c.defaults)
    (h : (c.artifacts env).1 = .error e) : c.Hindrance cache env e := by
  rw [artifacts_eq] at h
  rcases hlocate : c.locate env with ⟨located, env'⟩
  rw [hlocate] at h
  cases located with
  | ok locations =>
    dsimp only at h
    split at h
    · next hempty =>
      cases h
      exact .noPlaces hlocate hempty
    · next hlisted => exact .artifact hlocate (by simpa using hlisted) h
  | error e' =>
    obtain rfl : e' = e := Except.error.inj h
    obtain ⟨url, hurl⟩ | ⟨coordinates, hrequests⟩ := exists_moduleUrl_or_requests hdefaults
    · rw [locate_moduleUrl hurl] at hlocate
      have hfailed := congrArg Prod.fst hlocate
      cases hfetch : (c.fetcher.fetch url env).1 with
      | error e'' =>
        rw [hfetch] at hfailed
        cases hfailed
        exact .fetcher hurl hfetch
      | ok location => rw [hfetch] at hfailed; cases hfailed
    · rw [locate_of_requests hrequests] at hlocate
      exact .provisioner hrequests (congrArg Prod.fst hlocate)

theorem resolve_eq_error_iff {patterns : List String}
    (hdefaults : Coordinate.Template.ofList patterns = .ok c.defaults) :
    (c.resolve cache env).1 = .error e ↔ c.Hindrance cache env e := by
  refine ⟨fun h => ?_, Hindrance.resolve_eq⟩
  rcases hread : c.artifacts env with ⟨read, env'⟩
  cases read with
  | error e' =>
    have hfailed : (c.artifacts env).1 = .error e' := by rw [hread]
    rw [resolve_of_artifacts_error hfailed] at h
    cases h
    exact hindrance_of_artifacts_error hdefaults hfailed
  | ok artifacts =>
    rw [resolve_of_artifacts_ok hread] at h
    cases hobtain : (cache.obtain artifacts c.shared).1 with
    | error e' =>
      rw [hobtain] at h
      cases h
      exact .loader hread hobtain
    | ok loader =>
      rw [hobtain] at h
      cases hfiles : Preferences.readFiles env'.files c.preferenceFiles with
      | error e' =>
        rw [hfiles] at h
        cases h
        exact .preferences hread hobtain hfiles
      | ok preferences => rw [hfiles] at h; cases h

open Coordinate Coordinate.Template

/-- A list of patterns is accepted as a template if and only if it is not empty and each pattern makes a
coordinate with every version; a pattern that makes none with the version zero makes none with any. Once
accepted, the template makes one coordinate of each pattern in order, with as many segments as the
pattern has, and is never the reason why a configuration does not resolve. -/
theorem accepted_template_expands (patterns : List String) :
    ((∃ t, ofList patterns = .ok t) ↔
      patterns ≠ [] ∧ ∀ p ∈ patterns, ∀ v : Version, ∃ c, parse (fill p v.render) = .ok c) ∧
    (∀ p, ∀ v : Version,
      (∃ c, parse (fill p v.render) = .ok c) ↔ ∃ c, parse (fill p "0") = .ok c) ∧
    ∀ t, ofList patterns = .ok t →
      (∀ v, ∃ coordinates, t.expand v = .ok coordinates ∧
        List.Forall₂ (fun p c => parse (fill p v.render) = .ok c ∧
          c.segments.length = (Text.pieces ':' p).length) patterns coordinates) ∧
      ∀ (c : Configuration) (cache : LoaderCache) (env : Environment) (e : Failure), c.defaults = t →
        ((c.resolve cache env).1 = .error e ↔ c.Hindrance cache env e) := by
  have hprobe : ∀ p, ∀ v : Version,
      (∃ c, parse (fill p v.render) = .ok c) ↔ ∃ c, parse (fill p "0") = .ok c := fun p v => by
    simpa only [parse_eq_ok_iff_parse?, ← Option.isSome_iff_exists] using isSome_parse?_fill_iff p v
  refine ⟨?_, hprobe, fun t ht => ⟨fun v => ?_, ?_⟩⟩
  · simp only [ofList_eq_ok_iff, Option.isSome_iff_exists, ← parse_eq_ok_iff_parse?]
    constructor
    · rintro ⟨t, hne, -, hvalid⟩
      exact ⟨hne, fun p hp v => (hprobe p v).mpr (hvalid p hp)⟩
    · rintro ⟨hne, hvalid⟩
      exact ⟨⟨patterns⟩, hne, rfl, fun p hp => (hprobe p ⟨[0], by simp⟩).mp (hvalid p hp _)⟩
  · obtain ⟨coordinates, hexpand, -⟩ := expand_eq_ok ht v
    obtain ⟨-, rfl, -⟩ := ofList_eq_ok_iff.mp ht
    refine ⟨coordinates, hexpand, (expand_eq_ok_iff.mp hexpand).imp fun p c hc => ?_⟩
    exact ⟨hc, length_segments_of_fill hc⟩
  · rintro c cache env e rfl
    exact resolve_eq_error_iff ht

def twoPatterns : List String :=
  ["g:a:\x7bversion\x7d", " g:b-\x7bversion\x7d:toml:\x7bversion\x7d"]

def emptyHanded : Configuration :=
  .new "engine" (.fixed .empty) pairConfiguration.supported ⟨twoPatterns⟩ ⟨"/tmp"⟩

theorem accepted_template_expands_twoPatterns :
    ofList twoPatterns = .ok ⟨twoPatterns⟩ ∧
      (∃ c d, expand ⟨twoPatterns⟩ ⟨[1, 10], by simp⟩ = .ok [c, d] ∧
        parse (fill "g:a:\x7bversion\x7d" "1.10") = .ok c ∧ c.segments.length = 3 ∧
        d.segments.length = 4) ∧
      (emptyHanded.resolve (.ofEngines .builtins) pairEnvironment).1 =
        .error (.resolution "1" "no artifacts were provisioned") := by
  have haccepted : ofList twoPatterns = .ok ⟨twoPatterns⟩ := by decide +kernel
  obtain ⟨-, -, hexpands⟩ := accepted_template_expands twoPatterns
  obtain ⟨hexpand, hresolve⟩ := hexpands _ haccepted
  obtain ⟨coordinates, hcoordinates, hsegments⟩ := hexpand ⟨[1, 10], by simp⟩
  refine ⟨haccepted, ?_, ?_⟩
  · match coordinates, hsegments with
    | [c, d], .cons ⟨hc, hthree⟩ (.cons ⟨_, hfour⟩ .nil) =>
      exact ⟨c, d, hcoordinates, hc, hthree, hfour⟩
  · have hlocate : emptyHanded.locate pairEnvironment = (.ok .empty, pairEnvironment) := by
      obtain ⟨derived, hderived, -⟩ := hexpand emptyHanded.version
      exact locate_of_requests (.derived rfl rfl hderived)
    exact (hresolve emptyHanded _ _ _ rfl).mpr (.noPlaces hlocate rfl)

end Configuration

end FormatterModules
