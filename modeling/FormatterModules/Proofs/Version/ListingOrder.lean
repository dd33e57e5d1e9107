import FormatterModules.Proofs.Coordinate.Placeholder
import FormatterModules.Proofs.Version.Selection

namespace FormatterModules

namespace Selection

def ofListed (raw : List String) (requested? : Option String) : Except Failure Selection :=
  (SupportedVersions.ofList raw).bind (resolve requested?)

/-- The listed spelling that comes first of the version. -/
def firstSpelling? (raw : List String) (v : Version) : Option Version :=
  (raw.filterMap Version.parse?).find? (· == v)

/-- What a template makes of the selected version, if it is a version. -/
def coordinates? (template : Coordinate.Template) :
    Selection → Option (Except Failure (List Coordinate))
  | version v => some (template.expand v)
  | moduleUrl _ => none

/-- The same was selected or refused, but for the spelling of versions. -/
inductive SameOutcome : Except Failure Selection → Except Failure Selection → Prop
  | version {v w : Version} (same : (v == w) = true) :
    SameOutcome (.ok (.version v)) (.ok (.version w))
  | moduleUrl (url : Url) : SameOutcome (.ok (.moduleUrl url)) (.ok (.moduleUrl url))
  | unsupported (text : String) {supported supported' : SupportedVersions}
    (same : supported.versions.map Version.significant =
      supported'.versions.map Version.significant) :
    SameOutcome (.error (unsupportedVersion text supported))
      (.error (unsupportedVersion text supported'))
  | refused (e : Failure) : SameOutcome (.error e) (.error e)

end Selection

namespace SupportedVersions

variable {vs ws : List Version}

theorem mem_significant_sortDistinct {parts : List UInt32} :
    parts ∈ (sortDistinct vs).map Version.significant ↔ parts ∈ vs.map Version.significant := by
  constructor
  · intro h
    obtain ⟨v, hv, rfl⟩ := List.mem_map.mp h
    exact List.mem_map_of_mem (mem_of_mem_sortDistinct hv)
  · intro h
    obtain ⟨v, hv, rfl⟩ := List.mem_map.mp h
    obtain ⟨w, hw, hsame⟩ := exists_mem_sortDistinct hv
    rw [← Version.beq_iff_significant.mp hsame]
    exact List.mem_map_of_mem hw

theorem significant_sortDistinct_of_perm (h : vs.Perm ws) :
    (sortDistinct vs).map Version.significant = (sortDistinct ws).map Version.significant := by
  have hascending : ∀ us, Ascending ((sortDistinct us).map Version.significant) := by
    intro us
    unfold Ascending
    rw [List.pairwise_map]
    refine (ascending_sortDistinct us).imp ?_
    intro v w hlt
    rwa [← Version.compare_eq]
  apply eq_of_mem_iff_of_ascending compare (hascending vs) (hascending ws)
  intro parts
  rw [mem_significant_sortDistinct, mem_significant_sortDistinct]
  exact (h.map Version.significant).mem_iff

theorem eq_of_versions_eq {s t : SupportedVersions} (h : s.versions = t.versions) : s = t := by
  cases s
  cases t
  cases h
  rfl

theorem map_parse?_eq {raw : List String}
    (h : ∀ text ∈ raw, (Version.parse? text).isSome = true) :
    raw.map Version.parse? = (raw.filterMap Version.parse?).map some := by
  induction raw with
  | nil => rfl
  | cons text raw ih =>
    obtain ⟨htext, hraw⟩ := List.forall_mem_cons.mp h
    obtain ⟨v, hv⟩ := Option.isSome_iff_exists.mp htext
    simp [hv, ih hraw]

end SupportedVersions

namespace Selection

open SupportedVersions

variable {raw raw' : List String}

theorem ofListed_nil (requested? : Option String) :
    ofListed [] requested? =
      .error (.configuration "At least one supported version is required") := rfl

theorem exists_ofListed_eq (h : ∀ text ∈ raw, (Version.parse? text).isSome = true)
    (hne : raw ≠ []) :
    ∃ s, SupportedVersions.ofList raw = .ok s ∧
      s.versions = sortDistinct (raw.filterMap Version.parse?) := by
  apply exists_ofList_eq_ok (map_parse?_eq h)
  intro hnil
  have hlength := congrArg List.length (map_parse?_eq h)
  rw [hnil] at hlength
  exact hne (List.length_eq_zero_iff.mp (by simpa using hlength))

theorem sameOutcome_resolve {s t : SupportedVersions} {vs ws : List Version} (hperm : vs.Perm ws)
    (hs : s.versions = sortDistinct vs) (ht : t.versions = sortDistinct ws)
    (requested? : Option String) : SameOutcome (resolve requested? s) (resolve requested? t) := by
  have hsame : s.versions.map Version.significant = t.versions.map Version.significant := by
    rw [hs, ht, significant_sortDistinct_of_perm hperm]
  cases requested? with
  | none =>
    apply SameOutcome.version
    have hlast := congrArg List.getLast? hsame
    rw [List.getLast?_map, List.getLast?_map, List.getLast?_eq_some_getLast s.versions_ne_nil,
      List.getLast?_eq_some_getLast t.versions_ne_nil] at hlast
    exact Version.beq_iff_significant.mpr (Option.some.inj hlast)
  | some requested =>
    change SameOutcome (ofTrimmed (Text.trimmed requested) s) (ofTrimmed (Text.trimmed requested) t)
    unfold ofTrimmed
    cases Version.parse? (Text.trimmed requested) with
    | none =>
      cases readModuleUrl (Text.trimmed requested) with
      | error e => exact .refused e
      | ok url => exact .moduleUrl url
    | some v =>
      have hfound : (s.find? v).isSome = (t.find? v).isSome := by
        rw [find?_of_listed hs, find?_of_listed ht, Bool.eq_iff_iff, List.find?_isSome,
          List.find?_isSome]
        simp only [hperm.mem_iff]
      cases hv : s.find? v with
      | none =>
        have hw : t.find? v = none := by simpa [hv] using hfound
        simp only [hv, hw]
        exact .unsupported _ hsame
      | some w =>
        have hsome : (t.find? v).isSome = true := by simpa [hv] using hfound.symm
        obtain ⟨w', hw⟩ := Option.isSome_iff_exists.mp hsome
        simp only [hv, hw]
        exact .version (BEq.trans (find?_eq_some hv).2 (BEq.symm (find?_eq_some hw).2))

theorem isSome_firstSpelling? (hperm : raw.Perm raw') (v : Version) :
    (firstSpelling? raw v).isSome = (firstSpelling? raw' v).isSome := by
  rw [firstSpelling?, firstSpelling?, Bool.eq_iff_iff, List.find?_isSome, List.find?_isSome]
  simp only [(hperm.filterMap Version.parse?).mem_iff]

theorem beq_of_firstSpelling? {v w : Version} (h : firstSpelling? raw v = some w) :
    (w == v) = true :=
  List.find?_some (p := (· == v)) h

def versionPatterns : List String := ["g:a:\x7bversion\x7d"]

theorem ofList_versionPatterns :
    Coordinate.Template.ofList versionPatterns = .ok ⟨versionPatterns⟩ := by
  have hvalid : Coordinate.Template.firstInvalid? versionPatterns = none := by decide +kernel
  unfold Coordinate.Template.ofList
  rw [hvalid]
  rfl

section Permuted

variable (hraw : ∀ text ∈ raw, (Version.parse? text).isSome = true)
include hraw

theorem ofListed_render_eq_iff {v w : Version} :
    ofListed raw (some v.render) = .ok (.version w) ↔ firstSpelling? raw v = some w := by
  by_cases hne : raw = []
  · rw [hne, ofListed_nil]
    exact iff_of_false nofun nofun
  · obtain ⟨s, hs, hversions⟩ := exists_ofListed_eq hraw hne
    simp only [ofListed, hs, Except.bind, resolve_eq_version_iff, Version.trimmed_render,
      Version.parse?_render, Option.some_inj, find?_of_listed hversions, firstSpelling?]
    simp

variable (hperm : raw.Perm raw')
include hperm

theorem isSome_parse?_of_perm : ∀ text ∈ raw', (Version.parse? text).isSome = true :=
  fun text htext => hraw text (hperm.mem_iff.mpr htext)

theorem nil_or_exists_ofListed :
    (raw = [] ∧ raw' = []) ∨
    ∃ s t, SupportedVersions.ofList raw = .ok s ∧ SupportedVersions.ofList raw' = .ok t ∧
      s.versions = sortDistinct (raw.filterMap Version.parse?) ∧
      t.versions = sortDistinct (raw'.filterMap Version.parse?) := by
  by_cases hne : raw = []
  · subst hne
    exact .inl ⟨rfl, List.nil_perm.mp hperm⟩
  · right
    have hne' : raw' ≠ [] := by
      rintro rfl
      exact hne (List.perm_nil.mp hperm)
    obtain ⟨s, hs, hversions⟩ := exists_ofListed_eq hraw hne
    obtain ⟨t, ht, hversions'⟩ := exists_ofListed_eq (isSome_parse?_of_perm hraw hperm) hne'
    exact ⟨s, t, hs, ht, hversions, hversions'⟩

theorem sameOutcome_ofListed (requested? : Option String) :
    SameOutcome (ofListed raw requested?) (ofListed raw' requested?) := by
  obtain ⟨rfl, rfl⟩ | ⟨s, t, hs, ht, hversions, hversions'⟩ := nil_or_exists_ofListed hraw hperm
  · exact .refused _
  · rw [ofListed, ofListed, hs, ht]
    exact sameOutcome_resolve (hperm.filterMap _) hversions hversions' requested?

theorem ofListed_eq_iff :
    (∀ requested?, ofListed raw requested? = ofListed raw' requested?) ↔
      ∀ v, firstSpelling? raw v = firstSpelling? raw' v := by
  constructor
  · intro h v
    apply Option.ext
    intro w
    rw [← ofListed_render_eq_iff hraw, h,
      ofListed_render_eq_iff (isSome_parse?_of_perm hraw hperm)]
  · intro h requested?
    obtain ⟨rfl, rfl⟩ | ⟨s, t, hs, ht, hversions, hversions'⟩ := nil_or_exists_ofListed hraw hperm
    · rfl
    · have hlists : s.versions = t.versions := by
        rw [hversions, hversions']
        apply eq_of_find?_eq (ascending_sortDistinct _) (ascending_sortDistinct _)
        intro v
        rw [find?_sortDistinct, find?_sortDistinct]
        exact h v
      rw [ofListed, ofListed, hs, ht, eq_of_versions_eq hlists]

theorem coordinates_eq_iff :
    (∀ requested? patterns template, Coordinate.Template.ofList patterns = .ok template →
      (ofListed raw requested?).toOption.bind (coordinates? template) =
        (ofListed raw' requested?).toOption.bind (coordinates? template)) ↔
      ∀ v, firstSpelling? raw v = firstSpelling? raw' v := by
  constructor
  · intro h v
    have hsome := isSome_firstSpelling? hperm v
    cases hv : firstSpelling? raw v with
    | none =>
      rw [hv] at hsome
      exact (Option.isNone_iff_eq_none.mp (by simpa using hsome.symm)).symm
    | some w =>
      rw [hv] at hsome
      obtain ⟨w', hw'⟩ := Option.isSome_iff_exists.mp hsome.symm
      have hraw' := isSome_parse?_of_perm hraw hperm
      have hcoordinates := h (some v.render) versionPatterns _ ofList_versionPatterns
      rw [(ofListed_render_eq_iff hraw).mpr hv, (ofListed_render_eq_iff hraw').mpr hw']
        at hcoordinates
      have hsame : (w == w') = true :=
        BEq.trans (beq_of_firstSpelling? hv) (BEq.symm (beq_of_firstSpelling? hw'))
      obtain rfl | hplain := (Coordinate.Template.expand_eq_iff ofList_versionPatterns hsame).mp
        (Option.some.inj hcoordinates)
      · exact hw'.symm
      · exact absurd (by decide +kernel) (hplain _ List.mem_cons_self)
  · intro h requested? patterns template _
    rw [(ofListed_eq_iff hraw hperm).mpr h]

end Permuted

/-- Listing the versions in another order changes no outcome but for the spelling of versions, and the
coordinates only if the selected version is spelled differently and has a place in the template. Nothing
changes at all, or no coordinates for any request and template, exactly if each version is spelled first
as it was before. -/
theorem listing_order_decides_spelling {raw raw' : List String}
    (hraw : ∀ text ∈ raw, (Version.parse? text).isSome = true) (hperm : raw.Perm raw') :
    (∀ requested?, SameOutcome (ofListed raw requested?) (ofListed raw' requested?)) ∧
    (∀ requested? v v' patterns template, ofListed raw requested? = .ok (.version v) →
      ofListed raw' requested? = .ok (.version v') →
      Coordinate.Template.ofList patterns = .ok template →
      (template.expand v = template.expand v' ↔
        v = v' ∨ ∀ p ∈ patterns, ¬ Coordinate.Template.HasPlaceholder p)) ∧
    ((∀ requested?, ofListed raw requested? = ofListed raw' requested?) ↔
      ∀ v, firstSpelling? raw v = firstSpelling? raw' v) ∧
    ((∀ requested? patterns template, Coordinate.Template.ofList patterns = .ok template →
      (ofListed raw requested?).toOption.bind (coordinates? template) =
        (ofListed raw' requested?).toOption.bind (coordinates? template)) ↔
      ∀ v, firstSpelling? raw v = firstSpelling? raw' v) := by
  refine ⟨sameOutcome_ofListed hraw hperm, ?_, ofListed_eq_iff hraw hperm,
    coordinates_eq_iff hraw hperm⟩
  intro requested? v v' patterns template hv hv' htemplate
  have houtcome := sameOutcome_ofListed hraw hperm requested?
  rw [hv, hv'] at houtcome
  cases houtcome with
  | version same => exact Coordinate.Template.expand_eq_iff htemplate same

def one : Version := ⟨[1], nofun⟩

def onePointZero : Version := one.padded 1

theorem ofListed_one : ofListed ["1", "1.0"] (some "1") = .ok (.version one) := by rfl

theorem ofListed_onePointZero : ofListed ["1.0", "1"] (some "1") = .ok (.version onePointZero) := by
  rfl

theorem isSome_parse?_one : ∀ text ∈ ["1", "1.0"], (Version.parse? text).isSome = true := by
  decide +kernel

theorem hasPlaceholder_versionPatterns :
    ¬ ∀ p ∈ versionPatterns, ¬ Coordinate.Template.HasPlaceholder p := by
  intro hplain
  exact hplain _ List.mem_cons_self (by decide +kernel)

theorem listing_order_decides_spelling_one :
    SameOutcome (ofListed ["1", "1.0"] (some "1")) (ofListed ["1.0", "1"] (some "1")) ∧
      ofListed ["1", "1.0"] (some "1") = .ok (.version one) ∧
      ofListed ["1.0", "1"] (some "1") = .ok (.version onePointZero) ∧
      (Coordinate.Template.mk versionPatterns).expand one ≠
        (Coordinate.Template.mk versionPatterns).expand onePointZero := by
  obtain ⟨houtcome, hcoordinates, -, -⟩ :=
    listing_order_decides_spelling isSome_parse?_one (by decide : List.Perm _ ["1.0", "1"])
  refine ⟨houtcome (some "1"), ofListed_one, ofListed_onePointZero, fun hsame => ?_⟩
  obtain heq | hplain := (hcoordinates _ _ _ _ _ ofListed_one ofListed_onePointZero
    ofList_versionPatterns).mp hsame
  · cases heq
  · exact hasPlaceholder_versionPatterns hplain

/-- The same versions make different coordinates when they are listed in another order. -/
theorem coordinates_depend_on_listing_order :
    ¬ ∀ raw raw' : List String, (∀ text ∈ raw, (Version.parse? text).isSome = true) →
      raw.Perm raw' → ∀ requested? patterns template,
        Coordinate.Template.ofList patterns = .ok template →
        (ofListed raw requested?).toOption.bind (coordinates? template) =
          (ofListed raw' requested?).toOption.bind (coordinates? template) := by
  intro hclaim
  have h := hclaim ["1", "1.0"] ["1.0", "1"] isSome_parse?_one (by decide) (some "1")
    versionPatterns _ ofList_versionPatterns
  rw [ofListed_one, ofListed_onePointZero] at h
  obtain heq | hplain := (Coordinate.Template.expand_eq_iff ofList_versionPatterns (by rfl)).mp
    (Option.some.inj h)
  · cases heq
  · exact hasPlaceholder_versionPatterns hplain

end Selection

end FormatterModules
