import FormatterModules.Proofs.Repository.Closure
import FormatterModules.Provisioner

namespace FormatterModules

namespace Coordinate

instance : Std.LawfulEqOrd Coordinate where
  eq_of_compare {a b} h := by
    obtain ⟨hgroup, h⟩ := compareLex_eq_eq.mp h
    obtain ⟨hartifact, h⟩ := compareLex_eq_eq.mp h
    obtain ⟨hextension, h⟩ := compareLex_eq_eq.mp h
    obtain ⟨hclassifier, hversion⟩ := compareLex_eq_eq.mp h
    rw [compareOn_eq_eq] at hgroup hartifact hextension hclassifier hversion
    cases a
    cases b
    simp_all

end Coordinate

namespace Provisioner

variable {r : Repository} {files : FileTree}

theorem mem_resolveAll {cs : List Coordinate} {found locations : OrderedSet Path}
    (h : resolveAll r files found cs = .ok locations)
    (hfound : ∀ p ∈ found.toList, ∃ d, p = r.pathOf d) (p : Path) :
    p ∈ locations.toList ↔
      p ∈ found.toList ∨ ∃ c ∈ cs, ∃ d, r.Reaches files c d ∧ p = r.pathOf d := by
  induction cs generalizing found with
  | nil =>
    cases h
    simp
  | cons c cs ih =>
    unfold resolveAll at h
    cases hc : r.closure files c with
    | error e => rw [hc] at h; cases h
    | ok brought =>
      rw [hc] at h
      have hbrought : ∀ q, q ∈ brought.toList ↔ ∃ d, r.Reaches files c d ∧ q = r.pathOf d :=
        Repository.mem_closure hc
      have hplaces : ∀ q, q ∈ found.toList ∨ q ∈ brought.toList → ∃ d, q = r.pathOf d := by
        rintro q (hq | hq)
        · exact hfound q hq
        · obtain ⟨d, -, hd⟩ := (hbrought q).mp hq
          exact ⟨d, hd⟩
      -- A set keeps one of two paths that compare equal, and modules have no such paths.
      have hunion : ∀ q,
          q ∈ (found.union brought).toList ↔ q ∈ found.toList ∨ q ∈ brought.toList := by
        refine fun q => OrderedSet.mem_union_iff fun x hx y hy heq => ?_
        obtain ⟨d, rfl⟩ := hplaces x (.inr hx)
        obtain ⟨d', rfl⟩ := hplaces y hy
        exact Repository.pathOf_eq_of_compare heq
      rw [ih h fun q hq => hplaces q ((hunion q).mp hq), hunion, hbrought, or_assoc]
      simp

/-- A provisioner of a repository leaves the environment as it is. It finds the modules of all that
is reached from the coordinates. -/
theorem provision_ofRepository {flag? : Option StopFlag} {coordinates : OrderedSet Coordinate}
    {env env' : Environment} {locations : OrderedSet Path}
    (h : (ofRepository r flag?).provision coordinates env = (.ok locations, env')) :
    env' = env ∧ ∀ p, p ∈ locations.toList ↔
      ∃ c ∈ coordinates.toList, ∃ d, r.Reaches env.files c d ∧ p = r.pathOf d := by
  unfold ofRepository at h
  dsimp only at h
  split at h
  · cases h
  · obtain ⟨hresolved, rfl⟩ := Prod.mk.inj h
    refine ⟨rfl, fun p => ?_⟩
    rw [mem_resolveAll hresolved fun q hq => nomatch hq]
    simp [OrderedSet.empty]

theorem manifest_ofRepository {flag? : Option StopFlag} {coordinates : OrderedSet Coordinate}
    {env env' : Environment} {locations : OrderedSet Path}
    (h : (ofRepository r flag?).provision coordinates env = (.ok locations, env')) {m : Manifest} :
    (∃ p ∈ locations.toList, env'.files.HoldsManifest p m) ↔
      ∃ c ∈ coordinates.toList, ∃ d, r.Reaches env.files c d ∧ r.HasModule env.files d m := by
  obtain ⟨rfl, hmem⟩ := provision_ofRepository h
  constructor
  · rintro ⟨p, hp, hholds⟩
    obtain ⟨c, hc, d, hreach, rfl⟩ := (hmem p).mp hp
    exact ⟨c, hc, d, hreach, (r.hasModule_iff env'.files).mpr hholds⟩
  · rintro ⟨c, hc, d, hreach, hmodule⟩
    exact ⟨r.pathOf d, (hmem _).mpr ⟨c, hc, d, hreach, rfl⟩, hmodule.holds⟩

end Provisioner

end FormatterModules
