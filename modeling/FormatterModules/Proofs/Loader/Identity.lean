import Mathlib.Data.List.Nodup
import FormatterModules.Proofs.Loader.Hosting
import FormatterModules.Proofs.Loader.Objects
import FormatterModules.Proofs.Loader.Ownership

namespace FormatterModules

namespace ObjectCache

open LoaderCache (Request)
open ClassObjects

theorem mem_loaders_of_obtain {cache : ObjectCache} {r : Request} {l : ObjectLoader}
    (h : (cache.obtain r).1 = .ok l) : l ∈ (cache.obtain r).2.loaders := by
  unfold obtain at h ⊢
  cases hfound : cache.loaders.find? fun l => l.key = r.key with
  | some k =>
    rw [hfound] at h
    cases h
    exact List.mem_of_find?_eq_some hfound
  | none =>
    rw [hfound] at h
    unfold ObjectCache.build at h ⊢
    cases hd : (cache.defineFor r).1 with
    | error e => rw [hd] at h; cases h
    | ok classes =>
      rw [hd] at h
      cases h
      exact List.mem_cons_self

theorem key_of_obtain {cache : ObjectCache} {r : Request} {l : ObjectLoader}
    (h : (cache.obtain r).1 = .ok l) : l.key = r.key := by
  unfold obtain at h
  cases hfound : cache.loaders.find? fun l => l.key = r.key with
  | some k =>
    rw [hfound] at h
    cases h
    simpa using List.find?_some hfound
  | none =>
    rw [hfound] at h
    unfold ObjectCache.build at h
    cases hd : (cache.defineFor r).1 with
    | error e => rw [hd] at h; cases h
    | ok classes => rw [hd] at h; cases h; rfl

theorem loaders_subset_obtain (cache : ObjectCache) (r : Request) :
    cache.loaders ⊆ (cache.obtain r).2.loaders := by
  unfold obtain
  cases cache.loaders.find? fun l => l.key = r.key with
  | some l => exact List.Subset.refl _
  | none =>
    unfold ObjectCache.build
    cases (cache.defineFor r).1 with
    | error e => exact List.Subset.refl _
    | ok classes => exact List.subset_cons_self _ _

theorem loaders_subset_after (cache : ObjectCache) (requests : List Request) :
    cache.loaders ⊆ (cache.after requests).loaders := by
  induction requests generalizing cache with
  | nil => exact List.Subset.refl _
  | cons r rest ih => exact List.Subset.trans (cache.loaders_subset_obtain r) (ih (cache.obtain r).2)

theorem after_append (cache : ObjectCache) (first rest : List Request) :
    cache.after (first ++ rest) = (cache.after first).after rest := by
  induction first generalizing cache with
  | nil => rfl
  | cons r first ih => exact ih (cache.obtain r).2

/-- A loader is the answer to one of the requests. -/
def Answers (engines : EngineTable) (requests : List Request) (l : ObjectLoader) : Prop :=
  ∃ earlier r, earlier ++ [r] <+: requests ∧
    (((ofEngines engines).after earlier).obtain r).1 = .ok l

section Run

variable {engines : EngineTable} {requests : List Request} {k l : ObjectLoader}

theorem Answers.mem_loaders (h : Answers engines requests l) :
    l ∈ ((ofEngines engines).after requests).loaders := by
  obtain ⟨earlier, r, ⟨later, rfl⟩, hl⟩ := h
  rw [after_append, after_append]
  exact loaders_subset_after _ later (mem_loaders_of_obtain hl)

theorem owned_of_mem_loaders (h : l ∈ ((ofEngines engines).after requests).loaders) :
    ModuleLoader.Owned l.id l.key.shared (l.classes.mapValues ClassObject.contents) := by
  have hmem : l.forget ∈ ((LoaderCache.ofEngines engines).after requests).loaders := by
    rw [show LoaderCache.ofEngines engines = (ofEngines engines).forget from rfl, ← after_forget]
    exact List.mem_map_of_mem h
  obtain ⟨r, -, hmade⟩ := (LoaderCache.recorded_after engines requests).loaders l.forget hmem
  have howned := ModuleLoader.owned_ofArtifacts hmade
  have hkey := (ModuleLoader.key_ofArtifacts hmade).2
  rw [ObjectLoader.key_forget] at hkey
  rw [hkey]
  exact howned

theorem Answers.eq_of_id_eq (hk : Answers engines requests k) (hl : Answers engines requests l)
    (hid : k.id = l.id) : k = l := by
  have hnumbered := (LoaderCache.numbered_ofEngines engines).after requests
  have hforget := after_forget (ofEngines engines) requests
  rw [show (ofEngines engines).forget = LoaderCache.ofEngines engines from rfl] at hforget
  have hnodup : (((ofEngines engines).after requests).loaders.map ObjectLoader.id).Nodup := by
    have hdistinct := hnumbered.distinct
    rwa [← hforget, forget, List.map_map] at hdistinct
  exact List.inj_on_of_nodup_map hnodup hk.mem_loaders hl.mem_loaders hid

theorem Answers.lookup_eq_ok_iff (h : Answers engines requests l) (name : String) (o : ClassObject) :
    l.lookup name = .ok o ↔
      l.Shares name ∧ ((ofEngines engines).after requests).objects.host.get? name = some o ∨
        ¬ l.Shares name ∧ l.classes.get? name = some o := by
  have hlends := ((sound_ofEngines engines).after requests).lends l h.mem_loaders
  have hlookup : l.lookup name = .ok o ↔ l.find? name = some o := by
    unfold ObjectLoader.lookup
    cases l.find? name <;> simp
  rw [hlookup, ObjectLoader.find?]
  by_cases hshared : l.Shares name
  · obtain ⟨p, hhost, hmap⟩ := hlends.lent name hshared
    simp [hshared, hhost, hmap]
  · simp [hshared, hlends.other name hshared]

theorem Answers.lookup_forget (h : Answers engines requests l) (name : String) :
    (l.lookup name).map ClassObject.contents = l.forget.lookup name := by
  have hsound := (sound_ofEngines engines).after requests
  have hlends := hsound.lends l h.mem_loaders
  have hfind : (l.find? name).map ClassObject.contents = l.forget.find? name := by
    rw [ObjectLoader.find?, show l.forget.find? name =
      if l.Shares name then some (.ofHost name) else l.forget.classes.get? name from rfl]
    by_cases hshared : l.Shares name
    · obtain ⟨o, hhost, hmap⟩ := hlends.lent name hshared
      rw [hmap, if_pos hshared, Option.some_or, Option.map_some, hsound.hosted name o hhost]
    · rw [hlends.other name hshared, if_neg hshared, Option.none_or]
      exact (OrderedMap.get?_mapValues _ _ _).symm
  unfold ObjectLoader.lookup ModuleLoader.lookup
  rw [← hfind]
  cases l.find? name <;> rfl

theorem get?_classes_of_mem_loaders (h : l ∈ ((ofEngines engines).after requests).loaders)
    {name : String} {o : ClassObject} (ho : l.classes.get? name = some o) :
    o.contents.identity = (some l.id, name) ∧ ¬ l.Shares name := by
  have hget : (l.classes.mapValues ClassObject.contents).get? name = some o.contents := by
    rw [OrderedMap.get?_mapValues, ho, Option.map_some]
  obtain ⟨hidentity, hfree⟩ := owned_of_mem_loaders h name o.contents hget
  exact ⟨hidentity, by rw [ObjectLoader.Shares, hfree]; exact Bool.false_ne_true⟩

theorem Answers.get?_classes (h : Answers engines requests l) {name : String} {o : ClassObject}
    (ho : l.classes.get? name = some o) :
    o.contents.identity = (some l.id, name) ∧ ¬ l.Shares name :=
  get?_classes_of_mem_loaders h.mem_loaders ho

theorem Answers.lookup_shared (h : Answers engines requests l) {name : String} {o : ClassObject}
    (hhost : ((ofEngines engines).after requests).objects.host.get? name = some o)
    (hshared : l.Shares name) : l.lookup name = .ok o :=
  (h.lookup_eq_ok_iff name o).mpr (.inl ⟨hshared, hhost⟩)

theorem Answers.known (h : Answers engines requests l) {name : String} {o : ClassObject}
    (ho : l.lookup name = .ok o) : ((ofEngines engines).after requests).Known o := by
  rcases (h.lookup_eq_ok_iff name o).mp ho with ⟨-, hhost⟩ | ⟨-, hown⟩
  · exact .inl ⟨name, hhost⟩
  · exact .inr ⟨l, h.mem_loaders, name, hown⟩

theorem Answers.identity_lookup (h : Answers engines requests l) {name : String} {o : ClassObject}
    (ho : l.lookup name = .ok o) :
    o.contents.identity = (if l.Shares name then none else some l.id, name) := by
  rcases (h.lookup_eq_ok_iff name o).mp ho with ⟨hshared, hhost⟩ | ⟨hfree, hown⟩
  · rw [if_pos hshared, ((sound_ofEngines engines).after requests).hosted name o hhost]
    rfl
  · rw [if_neg hfree]
    exact (h.get?_classes hown).1

theorem Answers.eq_iff_identity_eq (hk : Answers engines requests k) (hl : Answers engines requests l)
    {name other : String} {o p : ClassObject} (ho : k.lookup name = .ok o)
    (hp : l.lookup other = .ok p) :
    o.number = p.number ↔ o.contents.identity = p.contents.identity := by
  have hsound := (sound_ofEngines engines).after requests
  refine ⟨fun h => by rw [hsound.apart.unique o p (hk.known ho) (hl.known hp) h], fun h => ?_⟩
  have hname : other = name := by
    rw [hk.identity_lookup ho, hl.identity_lookup hp] at h
    exact (congrArg Prod.snd h).symm
  subst other
  rw [hk.identity_lookup ho, hl.identity_lookup hp, Prod.mk.injEq] at h
  rcases (hk.lookup_eq_ok_iff name o).mp ho with ⟨hks, hko⟩ | ⟨hks, hko⟩ <;>
    rcases (hl.lookup_eq_ok_iff name p).mp hp with ⟨hls, hlp⟩ | ⟨hls, hlp⟩
  · rw [Option.some.inj (hko.symm.trans hlp)]
  · simp [hks, hls] at h
  · simp [hks, hls] at h
  · have hid : k.id = l.id := by simpa [hks, hls] using h
    obtain rfl := hk.eq_of_id_eq hl hid
    rw [Option.some.inj (hko.symm.trans hlp)]

/-- The loaders of a cache are isolated. Each finds what it finds without objects, records itself in
the classes that it defines, and defines none that it shares. Two loaders find one object of the host
under a name that both share, whatever their modules declare, and different objects of different
definers in any other case. -/
theorem classes_apart (hk : Answers engines requests k) (hl : Answers engines requests l)
    (hkl : k ≠ l) :
    (∀ name, (k.lookup name).map ClassObject.contents = k.forget.lookup name) ∧
    (∀ name o, k.classes.get? name = some o →
      o.contents.definer? = some k.id ∧ o.contents.name = name) ∧
    (∀ name ∈ k.classNames, ¬ k.Shares name) ∧
    ∀ name,
      (k.Shares name → l.Shares name →
        ∃ o, k.lookup name = .ok o ∧ l.lookup name = .ok o ∧ o.contents = .ofHost name ∧
          o.contents.definer? = none ∧ o.contents.constructor? = none ∧ o.contents.methods = []) ∧
      (¬ (k.Shares name ∧ l.Shares name) →
        ∀ o p, k.lookup name = .ok o → l.lookup name = .ok p →
          o.number ≠ p.number ∧ o.contents.definer? ≠ p.contents.definer?) := by
  have hsound := (sound_ofEngines engines).after requests
  refine ⟨hk.lookup_forget, fun name o ho => ?_, fun name hname => ?_,
    fun name => ⟨fun hks hls => ?_, ?_⟩⟩
  · obtain ⟨hdefiner, hname⟩ := Prod.mk.inj (hk.get?_classes ho).1
    exact ⟨hdefiner, hname⟩
  · obtain ⟨o, ho⟩ := Option.isSome_iff_exists.mp (OrderedMap.contains_iff.mpr hname)
    exact (hk.get?_classes ho).2
  · obtain ⟨o, hhost, -⟩ := (hsound.lends k hk.mem_loaders).lent name hks
    have hcontents := hsound.hosted name o hhost
    refine ⟨o, hk.lookup_shared hhost hks, hl.lookup_shared hhost hls, hcontents, ?_⟩
    rw [hcontents]
    exact ⟨rfl, rfl, rfl⟩
  · intro hunshared o p ho hp
    have hdefiners : o.contents.definer? ≠ p.contents.definer? := by
      intro heq
      have ho' := congrArg Prod.fst (hk.identity_lookup ho)
      have hp' := congrArg Prod.fst (hl.identity_lookup hp)
      change o.contents.definer? = _ at ho'
      change p.contents.definer? = _ at hp'
      rw [ho', hp'] at heq
      by_cases hks : k.Shares name <;> by_cases hls : l.Shares name
      · exact hunshared ⟨hks, hls⟩
      · simp [hks, hls] at heq
      · simp [hks, hls] at heq
      · have hid : k.id = l.id := by simpa [hks, hls] using heq
        exact hkl (hk.eq_of_id_eq hl hid)
    refine ⟨fun hnumber => hdefiners ?_, hdefiners⟩
    exact congrArg Prod.fst ((hk.eq_iff_identity_eq hl ho hp).mp hnumber)

end Run

def twoClasses : String :=
  "[module]\ngroup=''\nname=''\nversion=''\n[[class]]\nname='A'\nentry='indent'\n" ++
    "[[class]]\nname='B'\nentry='indent'\n"

/-- Requests for copies of one module that share the first of its classes. One of them fails. -/
def copiedRequests : List Request :=
  [⟨.ofList [.ofContent ⟨"a/m"⟩ twoClasses], .ofList ["A"]⟩,
    ⟨.ofList [.ofContent ⟨"a/m"⟩ twoClasses, .ofContent ⟨"a/n"⟩ ""], .ofList ["A"]⟩,
    ⟨.ofList [.ofContent ⟨"b/m"⟩ twoClasses], .ofList ["A", "D"]⟩]

/-- The loader of an answer, and what it declares under a name. -/
def foundIn (answer : Except Failure ObjectLoader) (name : String) :
    Option (LoaderId × Option String × List String) :=
  answer.toOption.bind fun l =>
    (l.find? name).map fun o => (l.id, o.contents.entry?, o.contents.methods)

theorem exists_of_foundIn {answer : Except Failure ObjectLoader} {name : String} {id : LoaderId}
    {entry : Option String} {methods : List String}
    (h : foundIn answer name = some (id, entry, methods)) :
    ∃ l o, answer = .ok l ∧ l.lookup name = .ok o ∧ l.id = id ∧
      o.contents.entry? = entry ∧ o.contents.methods = methods := by
  unfold foundIn at h
  cases answer with
  | error e => cases h
  | ok l =>
    obtain ⟨o, ho, heq⟩ := Option.map_eq_some_iff.mp h
    obtain ⟨hid, hentry, hmethods⟩ : l.id = id ∧ o.contents.entry? = entry ∧
        o.contents.methods = methods := by simpa using heq
    exact ⟨l, o, rfl, by rw [ObjectLoader.lookup, ho], hid, hentry, hmethods⟩

/-- Two loaders of one module share a class and have one each of the other. -/
theorem classes_apart_copied :
    ∃ k l o p, Answers .builtins copiedRequests k ∧ Answers .builtins copiedRequests l ∧ k ≠ l ∧
      (∃ a, k.lookup "A" = .ok a ∧ l.lookup "A" = .ok a) ∧
      k.lookup "B" = .ok o ∧ l.lookup "B" = .ok p ∧ o.number ≠ p.number ∧
      o.contents.entry? = p.contents.entry? ∧ o.contents.methods = p.contents.methods := by
  obtain ⟨k, o, hfirst, ho, hkid, hoentry, homethods⟩ := exists_of_foundIn
    (show foundIn (((ofEngines .builtins).after []).obtain copiedRequests[0]).1 "B" =
      some (⟨1⟩, some "indent", ["format"]) by decide +kernel)
  obtain ⟨l, p, hlast, hp, hlid, hpentry, hpmethods⟩ := exists_of_foundIn
    (show foundIn (((ofEngines .builtins).after (copiedRequests.take 2)).obtain
      copiedRequests[2]).1 "B" = some (⟨3⟩, some "indent", ["format"]) by decide +kernel)
  have hk : Answers .builtins copiedRequests k := ⟨[], _, ⟨copiedRequests.drop 1, rfl⟩, hfirst⟩
  have hl : Answers .builtins copiedRequests l := ⟨_, _, ⟨[], rfl⟩, hlast⟩
  have hkl : k ≠ l := by
    rintro rfl
    rw [hkid] at hlid
    exact absurd hlid (by decide)
  have hks : k.Shares "A" := by
    rw [ObjectLoader.Shares, key_of_obtain hfirst]
    decide +kernel
  have hls : l.Shares "A" := by
    rw [ObjectLoader.Shares, key_of_obtain hlast]
    decide +kernel
  have hfree : ¬ k.Shares "B" := by
    rw [ObjectLoader.Shares, key_of_obtain hfirst]
    decide +kernel
  obtain ⟨-, -, -, hclasses⟩ := classes_apart hk hl hkl
  obtain ⟨a, hka, hla, -⟩ := (hclasses "A").1 hks hls
  obtain ⟨hnumber, -⟩ := (hclasses "B").2 (fun h => hfree h.1) o p ho hp
  exact ⟨k, l, o, p, hk, hl, hkl, ⟨a, hka, hla⟩, ho, hp, hnumber, hoentry.trans hpentry.symm,
    homethods.trans hpmethods.symm⟩

end ObjectCache

end FormatterModules
