import FormatterModules.Proofs.Version.Supported
import FormatterModules.Version.Selection

namespace FormatterModules

namespace SupportedVersions

variable {s : SupportedVersions} {v w : Version}

theorem latest_mem (s : SupportedVersions) : s.latest ∈ s.versions :=
  List.getLast_mem s.versions_ne_nil

theorem find?_eq_some (h : s.find? v = some w) : w ∈ s.versions ∧ (w == v) = true :=
  ⟨List.mem_of_find?_eq_some h, List.find?_some (p := fun w => compare w v == .eq) h⟩

theorem find?_eq_some_iff (h : Ascending s.versions) :
    s.find? v = some w ↔ w ∈ s.versions ∧ (w == v) = true := by
  rw [Version.beq_iff_compare]
  exact Ascending.find?_eq_some_iff h

theorem isLE_latest (h : Ascending s.versions) (hw : w ∈ s.versions) :
    (compare w s.latest).isLE = true := by
  have hsplit := List.dropLast_append_getLast s.versions_ne_nil
  rw [← hsplit] at h hw
  obtain hw | hw := List.mem_append.mp hw
  · have hlt := (List.pairwise_append.mp h).2.2 w hw s.latest (by simp [latest])
    simp [hlt]
  · obtain rfl : w = s.latest := by simpa [latest] using hw
    simp

theorem find?_eq_halvingSearch (h : Ascending s.versions) (v : Version) :
    s.find? v = Version.halvingSearch s.versions v := by
  rw [Version.halvingSearch_eq_find? h]
  rfl

section Listed

variable {listed : List Version} (h : s.versions = sortDistinct listed)
include h

theorem ascending_of_listed : Ascending s.versions := by
  rw [h]
  exact ascending_sortDistinct listed

/-- A version is found as it was listed first. -/
theorem find?_of_listed (v : Version) : s.find? v = listed.find? (· == v) := by
  rw [← find?_sortDistinct, ← h]
  rfl

theorem isLE_latest_of_mem_listed (hv : v ∈ listed) : (compare v s.latest).isLE = true := by
  obtain ⟨w, hw, hsame⟩ := exists_mem_sortDistinct hv
  rw [← h] at hw
  have hvw : (compare v w).isLE = true := by
    simp [Version.beq_iff_compare.mp (BEq.symm hsame)]
  exact Std.TransCmp.isLE_trans hvw (isLE_latest (ascending_of_listed h) hw)

end Listed

theorem ofList_refused {raw : List String} (h : raw = [] ∨ ∃ text ∈ raw, Version.parse? text = none) :
    ∃ text, ofList raw = .error (.configuration text) := by
  obtain ⟨vs, hvs⟩ | ⟨before, text, after, vs, rfl, hbefore, htext⟩ :=
    exists_versions_or_malformed raw
  · obtain rfl | ⟨text, hmem, htext⟩ := h
    · exact ⟨_, ofList_nil⟩
    · have hnone : none ∈ vs.map some := by
        rw [← hvs, ← htext]
        exact List.mem_map_of_mem hmem
      simp at hnone
  · exact ⟨_, ofList_eq_error hbefore htext⟩

end SupportedVersions

namespace Selection

variable {supported : SupportedVersions} {requested : String}

theorem readModuleUrl_eq_ok_iff {raw : String} {url : Url} :
    readModuleUrl raw = .ok url ↔ Url.parse raw = .ok url ∧ url.scheme ∈ ["file", "http", "https"] := by
  unfold readModuleUrl
  cases Url.parse raw with
  | error e => simp
  | ok read =>
    have hscheme : moduleSchemes.contains read.scheme = true ↔
        read.scheme ∈ ["file", "http", "https"] := List.contains_iff_mem
    by_cases h : moduleSchemes.contains read.scheme = true
    · simp only [if_pos h, Except.ok.injEq]
      constructor
      · rintro rfl
        exact ⟨rfl, hscheme.mp h⟩
      · exact And.left
    · simp only [if_neg h, Except.ok.injEq, reduceCtorEq, false_iff, not_and]
      rintro rfl hmem
      exact h (hscheme.mpr hmem)

theorem readModuleUrl_eq_error {raw : String} {e : Failure} (h : readModuleUrl raw = .error e) :
    ∃ text, e = .invalidArgument text := by
  unfold readModuleUrl at h
  split at h
  · cases h
    exact ⟨_, rfl⟩
  · split at h
    · cases h
    · cases h
      exact ⟨_, rfl⟩

theorem resolve_eq_version_iff {w : Version} :
    resolve (some requested) supported = .ok (.version w) ↔
      ∃ v, Version.parse? (Text.trimmed requested) = some v ∧ supported.find? v = some w := by
  change ofTrimmed (Text.trimmed requested) supported = _ ↔ _
  unfold ofTrimmed
  cases hv : Version.parse? (Text.trimmed requested) with
  | none => cases readModuleUrl (Text.trimmed requested) <;> simp [Except.map]
  | some v => cases hw : supported.find? v <;> simp [hw]

theorem resolve_eq_moduleUrl_iff {url : Url} :
    resolve (some requested) supported = .ok (.moduleUrl url) ↔
      Version.parse? (Text.trimmed requested) = none ∧
        Url.parse (Text.trimmed requested) = .ok url ∧ url.scheme ∈ ["file", "http", "https"] := by
  rw [← readModuleUrl_eq_ok_iff]
  change ofTrimmed (Text.trimmed requested) supported = _ ↔ _
  unfold ofTrimmed
  cases hv : Version.parse? (Text.trimmed requested) with
  | none => cases readModuleUrl (Text.trimmed requested) <;> simp [Except.map]
  | some v => cases hw : supported.find? v <;> simp [hw]

theorem resolve_eq_error {e : Failure} (h : resolve (some requested) supported = .error e) :
    ∃ text, e = .invalidArgument text := by
  change ofTrimmed (Text.trimmed requested) supported = _ at h
  unfold ofTrimmed at h
  cases hv : Version.parse? (Text.trimmed requested) with
  | none =>
    rw [hv] at h
    cases hurl : readModuleUrl (Text.trimmed requested) with
    | error f =>
      rw [hurl] at h
      cases h
      exact readModuleUrl_eq_error hurl
    | ok url =>
      rw [hurl] at h
      cases h
  | some v =>
    cases hw : supported.find? v with
    | none =>
      simp only [hv, hw] at h
      cases h
      exact ⟨_, rfl⟩
    | some w =>
      simp only [hv, hw] at h
      cases h

/-- From a list of versions a request selects the spelling listed first of the version that it reads as,
and only a request that reads as no version selects a module, at the URL that it is. Without a request
the highest version is selected. All other requests are refused as arguments, and a list with a
malformed text or without versions as a configuration. -/
theorem selects_first_listed :
    (∀ raw : List String, (raw = [] ∨ ∃ text ∈ raw, Version.parse? text = none) →
      ∃ text, SupportedVersions.ofList raw = .error (.configuration text)) ∧
    ∀ (raw : List String) (listed : List Version), raw.map Version.parse? = listed.map some →
      listed ≠ [] → ∃ supported, SupportedVersions.ofList raw = .ok supported ∧
        (supported.versions = Version.dropEqual (listed.mergeSort Version.precedes) ∧
          Ascending supported.versions ∧
          ∀ v w, w ∈ supported.versions ∧ (w == v) = true ↔ listed.find? (· == v) = some w) ∧
        (∀ v, supported.find? v = Version.halvingSearch supported.versions v) ∧
        (∃ w ∈ supported.versions, resolve none supported = .ok (.version w) ∧
          ∀ v ∈ listed, (compare v w).isLE = true) ∧
        ∀ requested,
          (∀ w, resolve (some requested) supported = .ok (.version w) ↔
            ∃ v, Version.parse? (Text.trimmed requested) = some v ∧
              listed.find? (· == v) = some w) ∧
          (∀ url, resolve (some requested) supported = .ok (.moduleUrl url) ↔
            Version.parse? (Text.trimmed requested) = none ∧
              Url.parse (Text.trimmed requested) = .ok url ∧
              url.scheme ∈ ["file", "http", "https"]) ∧
          ∀ e, resolve (some requested) supported = .error e → ∃ text, e = .invalidArgument text := by
  refine ⟨fun raw => SupportedVersions.ofList_refused, fun raw listed hraw hne => ?_⟩
  obtain ⟨supported, hofList, hlisted⟩ := SupportedVersions.exists_ofList_eq_ok hraw hne
  have hascending := SupportedVersions.ascending_of_listed hlisted
  refine ⟨supported, hofList, ⟨?_, hascending, fun v w => ?_⟩,
    SupportedVersions.find?_eq_halvingSearch hascending,
    ⟨supported.latest, supported.latest_mem, rfl,
      fun v hv => SupportedVersions.isLE_latest_of_mem_listed hlisted hv⟩,
    fun requested => ⟨fun w => ?_, fun url => resolve_eq_moduleUrl_iff, fun e => resolve_eq_error⟩⟩
  · rw [hlisted, SupportedVersions.sortDistinct_eq]
  · rw [← SupportedVersions.find?_of_listed hlisted,
      SupportedVersions.find?_eq_some_iff hascending]
  · simp only [resolve_eq_version_iff, SupportedVersions.find?_of_listed hlisted]

/-- One version in two spellings, and another. -/
def twoSpellings : List String := ["2", "1.0", "1"]

theorem selects_first_listed_twoSpellings :
    (∃ text, SupportedVersions.ofList ["1", "x"] = .error (.configuration text)) ∧
    ∃ supported, SupportedVersions.ofList twoSpellings = .ok supported ∧
      resolve (some " 01.0.0 ") supported = .ok (.version ⟨[1, 0], by simp⟩) ∧
      (∃ url, resolve (some "file:///m") supported = .ok (.moduleUrl url)) ∧
      ∃ text, resolve (some "3") supported = .error (.invalidArgument text) := by
  obtain ⟨hrefused, haccepted⟩ := selects_first_listed
  obtain ⟨supported, hofList, -, -, -, hselects⟩ :=
    haccepted twoSpellings [⟨[2], by simp⟩, ⟨[1, 0], by simp⟩, ⟨[1], by simp⟩] rfl (by simp)
  refine ⟨hrefused _ (.inr ⟨"x", by simp, by rfl⟩), supported, hofList, ?_, ?_, ?_⟩
  · exact ((hselects " 01.0.0 ").1 _).mpr ⟨⟨[1, 0, 0], by simp⟩, by rfl, by rfl⟩
  · have hread : Url.parse (Text.trimmed "file:///m") =
        .ok ⟨"file", "", "", none, none, "/m", none, none⟩ := by rfl
    exact ⟨_, ((hselects "file:///m").2.1 _).mpr ⟨by rfl, hread, by simp⟩⟩
  · cases h : resolve (some "3") supported with
    | error e =>
      obtain ⟨text, rfl⟩ := (hselects "3").2.2 e h
      exact ⟨text, rfl⟩
    | ok selection =>
      have hthree : Version.parse? (Text.trimmed "3") = some ⟨[3], by simp⟩ := by rfl
      cases selection with
      | version w =>
        obtain ⟨v, hv, hw⟩ := ((hselects "3").1 w).mp h
        rw [hthree] at hv
        cases hv
        cases hw
      | moduleUrl url =>
        rw [((hselects "3").2.1 url).mp h |>.1] at hthree
        cases hthree

end Selection

end FormatterModules
