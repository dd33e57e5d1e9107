import FormatterModules.JavaFormatter
import FormatterModules.Proofs.Version.Grammar
import FormatterModules.Proofs.Version.Selection

namespace FormatterModules

theorem Url.trim_subset (s : List Char) : Url.trim s ⊆ s := by
  intro c hc
  have hfront := List.mem_reverse.mp ((List.dropWhile_sublist _).subset (List.mem_reverse.mp hc))
  exact (List.dropWhile_sublist _).subset hfront

theorem Url.colon_mem_of_parse {s : String} {url : Url} (h : Url.parse s = .ok url) :
    ':' ∈ s.toList := by
  by_contra hcolon
  have hrest : (Url.trim s.toList).dropWhile (· != ':') = [] := by
    rw [List.dropWhile_eq_nil_iff]
    intro c hc
    rw [bne_iff_ne]
    rintro rfl
    exact hcolon (Url.trim_subset _ hc)
  rw [Url.parse, Url.splitScheme?, hrest] at h
  cases h

theorem Version.DenotesSigned.colon_notMem {s : List Char} {n : Nat} (h : DenotesSigned s n) :
    ':' ∉ s := by
  obtain ⟨digits, hs, hdigits⟩ := h
  have hcolon : ':' ∉ digits := fun hmem => absurd (hdigits.isDigit ':' hmem) (by decide)
  obtain rfl | rfl := hs
  · exact hcolon
  · exact List.not_mem_cons_of_ne_of_not_mem (by decide) hcolon

theorem Version.colon_notMem_of_parse? {s : String} {v : Version} (h : Version.parse? s = some v) :
    ':' ∉ s.toList := by
  obtain ⟨-, texts, hs, hnumbers⟩ := Version.parse?_iff_dotted.mp h
  have htexts : ∀ text ∈ texts, ':' ∉ text :=
    ((List.forall₂_and_left _ _).mp (hnumbers.imp fun _ _ hn => ⟨hn.colon_notMem, hn⟩)).1
  rw [hs, Version.mem_intercalate_iff (by decide)]
  rintro ⟨text, hmem, hcolon⟩
  exact htexts text hmem hcolon

namespace Selection

variable {supported : SupportedVersions} {requested : String}

/-- The request is a supported version, in whatever spelling, or a URL that modules can be fetched
from. Blanks around it do not count. -/
inductive Accepted (supported : SupportedVersions) (requested : String) : Prop
  | version {v w : Version} (read : Version.parse? (Text.trimmed requested) = some v)
      (listed : w ∈ supported.versions) (same : (w == v) = true)
  | moduleUrl {url : Url} (read : Url.parse (Text.trimmed requested) = .ok url)
      (fetched : url.scheme ∈ ["file", "http", "https"])

theorem accepted_iff :
    Accepted supported requested ↔ ∃ s, resolve (some requested) supported = .ok s := by
  constructor
  · rintro (⟨read, listed, same⟩ | ⟨read, fetched⟩)
    · next v w =>
      have hfound : (supported.find? v).isSome = true :=
        List.find?_isSome.mpr ⟨w, listed, same⟩
      obtain ⟨found, hfound⟩ := Option.isSome_iff_exists.mp hfound
      exact ⟨_, resolve_eq_version_iff.mpr ⟨v, read, hfound⟩⟩
    · refine ⟨_, resolve_eq_moduleUrl_iff.mpr ⟨?_, read, fetched⟩⟩
      -- A text with a colon is no version.
      rw [Option.eq_none_iff_forall_ne_some]
      intro v hv
      exact Version.colon_notMem_of_parse? hv (Url.colon_mem_of_parse read)
  · rintro ⟨s, hs⟩
    cases s with
    | version w =>
      obtain ⟨v, hv, hfound⟩ := resolve_eq_version_iff.mp hs
      obtain ⟨hmem, hsame⟩ := SupportedVersions.find?_eq_some hfound
      exact .version hv hmem hsame
    | moduleUrl url =>
      obtain ⟨-, hread, hscheme⟩ := resolve_eq_moduleUrl_iff.mp hs
      exact .moduleUrl hread hscheme

end Selection

namespace JavaFormatter

def supported : SupportedVersions :=
  ⟨versions.filterMap Version.parse?, by decide +kernel⟩

theorem ofList_versions : SupportedVersions.ofList versions = .ok supported := by
  rfl

theorem configuration_eq (provisioner : Provisioner) (temporaryDirectory : Path) :
    configuration provisioner temporaryDirectory =
      .ok (.new name provisioner supported ⟨coordinatePatterns⟩ temporaryDirectory) := by
  have hdefaults : Coordinate.Template.ofList coordinatePatterns = .ok ⟨coordinatePatterns⟩ := by
    decide +kernel
  rw [configuration, ofList_versions, hdefaults]
  rfl

end JavaFormatter

end FormatterModules
