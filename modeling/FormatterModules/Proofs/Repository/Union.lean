import FormatterModules.Proofs.Repository.Provisioning
import FormatterModules.Proofs.Repository.Traversal

namespace FormatterModules.Provisioner

variable {r : Repository} {files : FileTree} {found locations : OrderedSet Path}
  {cs : List Coordinate} {e : Failure}

theorem resolveAll_eq (r : Repository) (files : FileTree) (found : OrderedSet Path)
    (cs : List Coordinate) :
    resolveAll r files found cs =
      (cs.mapM (r.closure files)).map fun brought => brought.foldl OrderedSet.union found := by
  refine Failure.eq_foldl_mapM (fun _ => rfl) (fun found c cs => ?_) found cs
  rw [resolveAll]
  cases r.closure files c <;> rfl

theorem exists_resolveAll_eq_ok_iff :
    (∃ locations, resolveAll r files found cs = .ok locations) ↔
      ∀ c ∈ cs, ∃ brought, r.closure files c = .ok brought := by
  rw [resolveAll_eq, ← Failure.exists_mapM_eq_ok_iff]
  cases cs.mapM (r.closure files) <;> simp [Except.map]

theorem resolveAll_eq_error_iff (h : Ascending cs) :
    resolveAll r files found cs = .error e ↔
      ∃ c ∈ cs, r.closure files c = .error e ∧
        ∀ d ∈ cs, compare d c = .lt → ∃ brought, r.closure files d = .ok brought := by
  rw [resolveAll_eq, ← Failure.mapM_eq_error_iff_of_ascending h]
  cases cs.mapM (r.closure files) <;> simp [Except.map]

theorem mem_resolveAll_iff (h : resolveAll r files .empty cs = .ok locations) (p : Path) :
    p ∈ locations.toList ↔
      ∃ c ∈ cs, ∃ brought, r.closure files c = .ok brought ∧ p ∈ brought.toList := by
  have hall := exists_resolveAll_eq_ok_iff.mp ⟨locations, h⟩
  rw [mem_resolveAll h (fun q hq => nomatch hq)]
  simp only [OrderedSet.empty, List.not_mem_nil, false_or]
  refine exists_congr fun c => and_congr_right fun hc => ?_
  obtain ⟨brought, hbrought⟩ := hall c hc
  simp only [hbrought, Except.ok.injEq, exists_eq_left', Repository.mem_closure hbrought]

theorem eq_of_compare_of_resolveAll {ds : List Coordinate} {others : OrderedSet Path}
    (h : resolveAll r files .empty cs = .ok locations)
    (h' : resolveAll r files .empty ds = .ok others) {p q : Path} (hp : p ∈ others.toList)
    (hq : q ∈ locations.toList ∨ q ∈ others.toList) (heq : compare p q = .eq) : p = q := by
  -- Paths may compare equal and be spelled differently, but not those that are made of coordinates.
  have hplace : ∀ {cs : List Coordinate} {locations : OrderedSet Path},
      resolveAll r files .empty cs = .ok locations → ∀ p ∈ locations.toList, ∃ d, p = r.pathOf d := by
    intro cs locations h p hp
    obtain ⟨c, -, brought, hbrought, hmem⟩ := (mem_resolveAll_iff h p).mp hp
    obtain ⟨d, -, hd⟩ := (Repository.mem_closure hbrought p).mp hmem
    exact ⟨d, hd⟩
  obtain ⟨d, rfl⟩ := hplace h' p hp
  obtain ⟨d', rfl⟩ := hq.elim (hplace h q) (hplace h' q)
  exact Repository.pathOf_eq_of_compare heq

theorem resolveAll_union (cs ds : OrderedSet Coordinate) :
    resolveAll r files .empty (cs.union ds).toList = .ok locations ↔
      ∃ a b, resolveAll r files .empty cs.toList = .ok a ∧
        resolveAll r files .empty ds.toList = .ok b ∧ locations = a.union b := by
  have hcoordinates : ∀ c, c ∈ (cs.union ds).toList ↔ c ∈ cs.toList ∨ c ∈ ds.toList := fun c =>
    OrderedSet.mem_union_iff fun _ _ _ _ heq => Std.LawfulEqOrd.eq_of_compare heq
  have hunion : ∀ locations a b, resolveAll r files .empty (cs.union ds).toList = .ok locations →
      resolveAll r files .empty cs.toList = .ok a → resolveAll r files .empty ds.toList = .ok b →
      locations = a.union b := by
    intro locations a b h ha hb
    refine OrderedSet.ext_mem fun p => ?_
    rw [OrderedSet.mem_union_iff fun x hx y hy => eq_of_compare_of_resolveAll ha hb hx hy,
      mem_resolveAll_iff h, mem_resolveAll_iff ha, mem_resolveAll_iff hb]
    simp only [hcoordinates, or_and_right, exists_or]
  have hexists : (∃ locations, resolveAll r files .empty (cs.union ds).toList = .ok locations) ↔
      (∃ a, resolveAll r files .empty cs.toList = .ok a) ∧
        ∃ b, resolveAll r files .empty ds.toList = .ok b := by
    simp only [exists_resolveAll_eq_ok_iff, hcoordinates, or_imp, forall_and]
  constructor
  · intro h
    obtain ⟨⟨a, ha⟩, b, hb⟩ := hexists.mp ⟨locations, h⟩
    exact ⟨a, b, ha, hb, hunion locations a b h ha hb⟩
  · rintro ⟨a, b, ha, hb, rfl⟩
    obtain ⟨locations, h⟩ := hexists.mpr ⟨⟨a, ha⟩, b, hb⟩
    rw [h, hunion locations a b h ha hb]

theorem fst_provision_ofRepository {flag? : Option StopFlag} {env : Environment}
    (h : env.isStopped flag? = false) (cs : OrderedSet Coordinate) :
    ((ofRepository r flag?).provision cs env).1 = resolveAll r env.files .empty cs.toList := by
  simp [ofRepository, h]

/-- A provisioner that takes artifacts from a repository and is not stopped finds them if and only if each
coordinate is resolved on its own. It finds what the coordinates bring one by one, so two sets of
coordinates bring together what each of them brings. Otherwise its failure is that of the least
coordinate that is not resolved: it tells what is wrong where the first coordinate without a module
should have one, among those that are visited depth first from there, each one once. -/
theorem provision_unites (r : Repository) (flag? : Option StopFlag) (env : Environment)
    (henv : env.isStopped flag? = false) :
    let provision := fun cs => ((ofRepository r flag?).provision cs env).1
    (∀ cs, (∃ found, provision cs = .ok found) ↔
      ∀ c ∈ cs.toList, ∃ brought, r.closure env.files c = .ok brought) ∧
    (∀ cs found, provision cs = .ok found → ∀ p, p ∈ found.toList ↔
      ∃ c ∈ cs.toList, ∃ brought, r.closure env.files c = .ok brought ∧ p ∈ brought.toList) ∧
    (∀ cs ds found, provision (cs.union ds) = .ok found ↔
      ∃ a b, provision cs = .ok a ∧ provision ds = .ok b ∧ found = a.union b) ∧
    (∀ cs e, provision cs = .error e ↔
      ∃ c ∈ cs.toList, r.closure env.files c = .error e ∧
        ∀ d ∈ cs.toList, compare d c = .lt → ∃ brought, r.closure env.files d = .ok brought) ∧
    ∀ c, ∃ order, r.Visits env.files [c] [] order ∧ order.Nodup ∧
      (∀ other, r.Visits env.files [c] [] other → other = order) ∧
      ∀ e, r.closure env.files c = .error e ↔
        ∃ before d after, order = before ++ d :: after ∧
          (∀ b ∈ before, ∃ m, r.HasModule env.files b m) ∧ r.Lacks env.files d e := by
  intro provision
  have hprovision : ∀ cs, provision cs = resolveAll r env.files .empty cs.toList :=
    fst_provision_ofRepository henv
  simp only [hprovision]
  refine ⟨fun cs => exists_resolveAll_eq_ok_iff, fun cs found => mem_resolveAll_iff,
    fun cs ds found => resolveAll_union cs ds, fun cs e => resolveAll_eq_error_iff cs.ascending,
    fun c => ?_⟩
  obtain ⟨order, horder⟩ := r.exists_visits_single env.files c
  exact ⟨order, horder, horder.nodup List.nodup_nil, fun other hother => hother.unique horder,
    fun e => Repository.closure_eq_error_iff horder⟩

open Repository

def brokenFiles : FileTree :=
  pairFiles.put ["r", "g", "b", "1", "b-1.toml"] (.file (Bytes.ofText "["))

def brokenEnvironment : Environment := .ofFiles brokenFiles ⟨"/tmp"⟩

def absent : Coordinate := (Coordinate.ofSegments? ["g", "c", "1"]).get (by decide)

theorem broken_first : pair.manifest brokenFiles firstOfPair =
    .ok ⟨⟨"g", "a", "1", [secondOfPair]⟩, [⟨"A", "indent", ["format"]⟩]⟩ := by
  decide +kernel

theorem broken_second : pair.manifest brokenFiles secondOfPair =
    .error (.parse "r/g/b/1/b-1.toml" Failure.tomlDiagnostic) := by
  decide +kernel

theorem broken_visits :
    pair.Visits brokenFiles [firstOfPair] [] [firstOfPair, secondOfPair] := by
  have hfirst : pair.requirements brokenFiles firstOfPair = [secondOfPair] := by
    rw [requirements, broken_first]
  have hsecond : pair.requirements brokenFiles secondOfPair = [] := by
    rw [requirements, broken_second]
  have hwithin : pair.Visits brokenFiles [secondOfPair] [firstOfPair] [firstOfPair, secondOfPair] :=
    .first (by decide) (by rw [hsecond]; exact .done) .done
  exact .first List.not_mem_nil (by rw [hfirst]; exact hwithin) .done

/-- Neither of two coordinates is resolved, and it is the module that the lesser one requires which
decides. -/
theorem provision_unites_broken :
    ((ofRepository pair none).provision (.ofList [absent, firstOfPair]) brokenEnvironment).1 =
      .error (.parse "r/g/b/1/b-1.toml" Failure.tomlDiagnostic) := by
  obtain ⟨-, -, -, hfailure, hvisits⟩ := provision_unites pair none brokenEnvironment rfl
  obtain ⟨order, -, -, hunique, hfirst⟩ := hvisits firstOfPair
  obtain rfl := hunique _ broken_visits
  have hleast : ∀ c ∈ (OrderedSet.ofList [absent, firstOfPair]).toList,
      compare c firstOfPair ≠ .lt := by decide +kernel
  refine (hfailure _ _).mpr ⟨firstOfPair, by decide +kernel, (hfirst _).mpr ?_,
    fun c hc hlt => absurd hlt (hleast c hc)⟩
  refine ⟨[firstOfPair], secondOfPair, [], rfl, ?_, manifest_eq_error_iff.mp broken_second⟩
  exact List.forall_mem_singleton.mpr ⟨_, (pair.manifest_eq_ok _).mp broken_first⟩

end FormatterModules.Provisioner
