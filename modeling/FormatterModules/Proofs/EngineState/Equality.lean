import FormatterModules.EngineState
import FormatterModules.Proofs.Artifact.Set
import FormatterModules.Proofs.Ordered.Map
import FormatterModules.Proofs.Version.Order

namespace FormatterModules

theorem ArtifactSet.identities_eq_iff {s t : ArtifactSet} :
    s.identities = t.identities ↔ ∀ d, d ∈ s.identities ↔ d ∈ t.identities := by
  constructor
  · intro h d
    rw [h]
  · exact eq_of_mem_iff_of_ascending compare s.identities_ascending t.identities_ascending

theorem Preferences.toList_eq_iff {p q : Preferences} : p.toList = q.toList ↔ p = q := by
  constructor
  · intro h
    cases p
    cases q
    exact congrArg Preferences.mk (OrderedMap.ext h)
  · intro h
    rw [h]

theorem Preferences.eq_iff_get? {p q : Preferences} :
    p = q ↔ ∀ key, p.get? key = q.get? key := by
  constructor
  · intro h key
    rw [h]
  · intro h
    cases p
    cases q
    exact congrArg Preferences.mk (OrderedMap.ext_get? h)

namespace EngineState

variable {a b : EngineState}

theorem beq_iff : (a == b) = true ↔
    (a.version == b.version) = true ∧ a.moduleUrl?.map Url.href = b.moduleUrl?.map Url.href ∧
      a.artifacts.identitySet = b.artifacts.identitySet ∧ a.preferences = b.preferences := by
  change (a.version == b.version && a.moduleUrl?.map Url.href == b.moduleUrl?.map Url.href &&
    a.artifacts == b.artifacts && a.preferences == b.preferences) = true ↔ _
  rw [Bool.and_eq_true, Bool.and_eq_true, Bool.and_eq_true, ArtifactSet.beq_iff,
    ArtifactSet.identitySet_inj, beq_iff_eq (a := a.preferences),
    beq_iff_eq (a := a.moduleUrl?.map Url.href), and_assoc, and_assoc]

theorem significant_eq_iff : a.significant = b.significant ↔
    a.version.significant = b.version.significant ∧
      a.moduleUrl?.map Url.href = b.moduleUrl?.map Url.href ∧
      a.artifacts.identities = b.artifacts.identities ∧ a.preferences = b.preferences := by
  rw [← Preferences.toList_eq_iff]
  simp [significant]

theorem beq_iff_significant : (a == b) = true ↔ a.significant = b.significant := by
  rw [beq_iff, significant_eq_iff, Version.beq_iff_significant, ArtifactSet.identitySet_inj]

theorem equivalence_beq : Equivalence fun a b : EngineState => (a == b) = true where
  refl _ := beq_iff_significant.mpr rfl
  symm h := beq_iff_significant.mpr (beq_iff_significant.mp h).symm
  trans h h' := beq_iff_significant.mpr
    ((beq_iff_significant.mp h).trans (beq_iff_significant.mp h'))

/-- Equality of states is an equivalence. States are equal if and only if their versions are the same
with zeros behind them, their URLs are the same, their artifacts have the same identities and their
preferences give each key the same value. The significant data of equal states are identical. -/
theorem equality_agrees_with_significant :
    Equivalence (fun a b : EngineState => (a == b) = true) ∧
    (∀ a b : EngineState, (a == b) = true ↔
      (∃ m n, a.version.padded m = b.version.padded n) ∧
      a.moduleUrl?.map Url.href = b.moduleUrl?.map Url.href ∧
      (∀ d, d ∈ a.artifacts.identities ↔ d ∈ b.artifacts.identities) ∧
      ∀ key, a.preferences.get? key = b.preferences.get? key) ∧
    ∀ a b : EngineState, (a == b) = true ↔ a.significant = b.significant := by
  refine ⟨equivalence_beq, fun a b => ?_, fun a b => beq_iff_significant⟩
  rw [beq_iff, Version.beq_iff_padded, ArtifactSet.identitySet_inj, ArtifactSet.identities_eq_iff,
    Preferences.eq_iff_get?]

end EngineState

end FormatterModules
