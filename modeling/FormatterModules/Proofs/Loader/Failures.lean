import Mathlib.Data.List.Find
import Mathlib.Data.List.Pairwise
import FormatterModules.Proofs.Loader.Identity

namespace FormatterModules

/-- The loaders differ in nothing but numbers: they have the same key and origins, and under every
name both find the same class, or both miss it with the same message. -/
structure ObjectLoader.Agree (k l : ObjectLoader) : Prop where
  key : k.key = l.key
  origins : k.origins = l.origins
  classNames : k.classNames = l.classNames
  lookup : ∀ name, SameOutcome (fun o p => o.contents.renumber l.id = p.contents)
    (k.lookup name) (l.lookup name)

namespace ObjectCache

open LoaderCache (Request)

def answers (cache : ObjectCache) : List Request → List (Except Failure ObjectLoader)
  | [] => []
  | r :: rest => (cache.obtain r).1 :: answers (cache.obtain r).2 rest

/-- The requests that do not fail, each made after all that stand before it. -/
def accepted (cache : ObjectCache) : List Request → List Request
  | [] => []
  | r :: rest =>
    match (cache.obtain r).1 with
    | .ok _ => r :: accepted (cache.obtain r).2 rest
    | .error _ => accepted (cache.obtain r).2 rest

def loadersOf (cache : ObjectCache) (requests : List Request) : List ObjectLoader :=
  (cache.answers requests).filterMap Except.toOption

section Runs

variable {cache : ObjectCache} {r : Request}

theorem accepted_cons_of_error {e : Failure} (h : (cache.obtain r).1 = .error e)
    (rest : List Request) : cache.accepted (r :: rest) = (cache.obtain r).2.accepted rest := by
  rw [accepted, h]

theorem accepted_cons_of_ok {l : ObjectLoader} (h : (cache.obtain r).1 = .ok l)
    (rest : List Request) : cache.accepted (r :: rest) = r :: (cache.obtain r).2.accepted rest := by
  rw [accepted, h]

theorem loadersOf_cons_of_error {e : Failure} (h : (cache.obtain r).1 = .error e)
    (rest : List Request) : cache.loadersOf (r :: rest) = (cache.obtain r).2.loadersOf rest := by
  rw [loadersOf, answers, h]
  rfl

theorem loadersOf_cons_of_ok {l : ObjectLoader} (h : (cache.obtain r).1 = .ok l)
    (rest : List Request) : cache.loadersOf (r :: rest) = l :: (cache.obtain r).2.loadersOf rest := by
  rw [loadersOf, answers, h]
  rfl

end Runs

section Build

variable (cache : ObjectCache) (r : Request)

@[simp] theorem engines_build : (cache.build r).2.engines = cache.engines := by
  unfold ObjectCache.build
  cases (cache.defineFor r).1 <;> rfl

@[simp] theorem nextNumber_build : (cache.build r).2.nextNumber = cache.nextNumber + 1 := by
  unfold ObjectCache.build
  cases (cache.defineFor r).1 <;> rfl

theorem loaders_build :
    (∃ e, (cache.build r).1 = .error e ∧ (cache.build r).2.loaders = cache.loaders) ∨
    ∃ l, (cache.build r).1 = .ok l ∧ l.id = ⟨cache.nextNumber⟩ ∧
      (cache.build r).2.loaders = l :: cache.loaders := by
  unfold ObjectCache.build
  cases (cache.defineFor r).1 with
  | error e => exact .inl ⟨e, rfl, rfl⟩
  | ok classes => exact .inr ⟨_, rfl, rfl, rfl⟩

theorem fst_build : (cache.build r).1.map ObjectLoader.forget =
    ModuleLoader.ofArtifacts ⟨cache.nextNumber⟩ cache.engines r.artifacts r.shared := by
  rw [(cache.build_forget r).1]
  exact LoaderCache.fst_make cache.forget.takeNumber.2 _ r.artifacts r.shared

variable {cache r}

theorem obtain_of_find? {l : ObjectLoader}
    (h : cache.loaders.find? (fun l => l.key = r.key) = some l) : cache.obtain r = (.ok l, cache) := by
  rw [obtain, h]

theorem obtain_of_not_found (h : cache.loaders.find? (fun l => l.key = r.key) = none) :
    cache.obtain r = cache.build r := by
  rw [obtain, h]

theorem loaders_of_failed {e : Failure} (h : (cache.obtain r).1 = .error e) :
    (cache.obtain r).2.loaders = cache.loaders ∧ (cache.obtain r).2.engines = cache.engines ∧
      (cache.obtain r).2.nextNumber = cache.nextNumber + 1 := by
  cases hfound : cache.loaders.find? fun l => l.key = r.key with
  | some l =>
    rw [obtain_of_find? hfound] at h
    cases h
  | none =>
    rw [obtain_of_not_found hfound] at h ⊢
    obtain ⟨_, -, hloaders⟩ | ⟨l, hl, -⟩ := cache.loaders_build r
    · exact ⟨hloaders, cache.engines_build r, cache.nextNumber_build r⟩
    · rw [hl] at h
      cases h

theorem hit_of_failed {e : Failure} (h : (cache.obtain r).1 = .error e) {q : Request}
    {l : ObjectLoader} (hq : cache.obtain q = (.ok l, cache)) :
    (cache.obtain r).2.obtain q = (.ok l, (cache.obtain r).2) := by
  cases hfound : cache.loaders.find? fun l => l.key = q.key with
  | some k =>
    rw [obtain_of_find? hfound] at hq
    cases hq
    rw [← (loaders_of_failed h).1] at hfound
    exact obtain_of_find? hfound
  | none =>
    -- A loader that is built changes the cache.
    rw [obtain_of_not_found hfound] at hq
    have hnumber := cache.nextNumber_build q
    rw [hq] at hnumber
    exact absurd hnumber.symm (Nat.succ_ne_self _)

end Build

section Mirrors

/-- The first of each pair was made before the first of the other, and the second too. -/
def Later (p q : ObjectLoader × ObjectLoader) : Prop :=
  q.1.id.number < p.1.id.number ∧ q.2.id.number < p.2.id.number

/-- The caches hold the same loaders, pair by pair, but for the numbers, which are in the same
order. -/
structure Mirrors (pairs : List (ObjectLoader × ObjectLoader)) (cache other : ObjectCache) :
    Prop where
  engines : other.engines = cache.engines
  loaders : cache.loaders = pairs.map Prod.fst
  others : other.loaders = pairs.map Prod.snd
  same : ∀ p ∈ pairs, p.1.forget.renumber p.2.id = p.2.forget
  below : ∀ p ∈ pairs, p.1.id.number < cache.nextNumber ∧ p.2.id.number < other.nextNumber
  ordered : pairs.Pairwise Later

variable {pairs : List (ObjectLoader × ObjectLoader)} {cache other : ObjectCache} {r : Request}

theorem mirrors_ofEngines (engines : EngineTable) :
    Mirrors [] (ofEngines engines) (ofEngines engines) where
  engines := rfl
  loaders := rfl
  others := rfl
  same _ hp := nomatch hp
  below _ hp := nomatch hp
  ordered := .nil

theorem Mirrors.failed (h : Mirrors pairs cache other) {e : Failure}
    (he : (cache.obtain r).1 = .error e) : Mirrors pairs (cache.obtain r).2 other := by
  obtain ⟨hloaders, hengines, hnumber⟩ := loaders_of_failed he
  refine ⟨h.engines.trans hengines.symm, hloaders.trans h.loaders, h.others, h.same, ?_, h.ordered⟩
  intro p hp
  rw [hnumber]
  exact ⟨Nat.lt_succ_of_lt (h.below p hp).1, (h.below p hp).2⟩

theorem Mirrors.find? (h : Mirrors pairs cache other) (key : LoaderKey) :
    cache.loaders.find? (fun l => l.key = key) =
        (pairs.find? fun p => p.1.key = key).map Prod.fst ∧
      other.loaders.find? (fun l => l.key = key) =
        (pairs.find? fun p => p.1.key = key).map Prod.snd := by
  have hkeys : ∀ p ∈ pairs, p.1.key = p.2.key :=
    fun p hp => congrArg ModuleLoader.key (h.same p hp)
  rw [h.loaders, h.others, List.find?_map, List.find?_map]
  refine ⟨rfl, congrArg (Option.map Prod.snd) (List.find?_congr fun p hp => ?_)⟩
  simp [hkeys p hp]

theorem Mirrors.obtain (h : Mirrors pairs cache other) {k : ObjectLoader}
    (hk : (cache.obtain r).1 = .ok k) :
    ∃ l more, (other.obtain r).1 = .ok l ∧ (k, l) ∈ more ++ pairs ∧
      Mirrors (more ++ pairs) (cache.obtain r).2 (other.obtain r).2 := by
  obtain ⟨hfind, hfindOther⟩ := h.find? r.key
  cases hp : pairs.find? fun p => p.1.key = r.key with
  | some p =>
    rw [hp] at hfind hfindOther
    rw [obtain_of_find? hfind] at hk ⊢
    rw [obtain_of_find? hfindOther]
    cases hk
    exact ⟨p.2, [], rfl, List.mem_of_find?_eq_some hp, h⟩
  | none =>
    rw [hp] at hfind hfindOther
    rw [obtain_of_not_found hfind] at hk ⊢
    rw [obtain_of_not_found hfindOther]
    have hmade := ModuleLoader.ofArtifacts_renumber ⟨cache.nextNumber⟩ ⟨other.nextNumber⟩
      cache.engines r.artifacts r.shared
    rw [← fst_build, ← h.engines, ← fst_build, hk] at hmade
    obtain ⟨e, he, -⟩ | ⟨l, hl, hlid, hloaders⟩ := other.loaders_build r
    · rw [he] at hmade
      cases hmade
    · obtain ⟨e, he, -⟩ | ⟨k', hk', hkid, hloadersOfCache⟩ := cache.loaders_build r
      · cases he.symm.trans hk
      · obtain rfl : k' = k := Except.ok.inj (hk'.symm.trans hk)
        rw [hl] at hmade
        have hsame : k'.forget.renumber l.id = l.forget := by
          rw [hlid]
          exact Except.ok.inj hmade
        refine ⟨l, [(k', l)], hl, List.mem_cons_self, ?_, ?_, ?_, ?_, ?_, ?_⟩
        · rw [engines_build, engines_build, h.engines]
        · rw [hloadersOfCache, h.loaders]
          rfl
        · rw [hloaders, h.others]
          rfl
        · exact List.forall_mem_cons.mpr ⟨hsame, h.same⟩
        · rw [nextNumber_build, nextNumber_build]
          refine List.forall_mem_cons.mpr ⟨?_, fun p hp => ?_⟩
          · rw [hkid, hlid]
            exact ⟨Nat.lt_succ_self _, Nat.lt_succ_self _⟩
          · exact (h.below p hp).imp Nat.lt_succ_of_lt Nat.lt_succ_of_lt
        · refine List.pairwise_cons.mpr ⟨fun p hp => ?_, h.ordered⟩
          rw [Later, hkid, hlid]
          exact h.below p hp

theorem Mirrors.run (h : Mirrors pairs cache other) (requests : List Request) :
    ∃ more others, Mirrors (more ++ pairs) (cache.after requests)
        (other.after (cache.accepted requests)) ∧
      other.answers (cache.accepted requests) = others.map .ok ∧
      List.Forall₂ (fun k l => (k, l) ∈ more ++ pairs) (cache.loadersOf requests) others := by
  induction requests generalizing pairs cache other with
  | nil => exact ⟨[], [], h, rfl, .nil⟩
  | cons r rest ih =>
    cases hanswer : (cache.obtain r).1 with
    | error e =>
      rw [after, accepted_cons_of_error hanswer, loadersOf_cons_of_error hanswer]
      exact ih (h.failed hanswer)
    | ok k =>
      obtain ⟨l, new, hl, hmem, hmirrors⟩ := h.obtain hanswer
      obtain ⟨more, others, hrun, hanswers, hpairs⟩ := ih hmirrors
      rw [after, accepted_cons_of_ok hanswer, loadersOf_cons_of_ok hanswer, after, answers]
      refine ⟨more ++ new, l :: others, ?_, ?_, ?_⟩
      · rw [List.append_assoc]
        exact hrun
      · rw [hl, hanswers]
        rfl
      · rw [List.append_assoc]
        exact .cons (List.mem_append_right _ hmem) hpairs

theorem Mirrors.trichotomy (h : Mirrors pairs cache other) {p q : ObjectLoader × ObjectLoader}
    (hp : p ∈ pairs) (hq : q ∈ pairs) : p = q ∨ Later p q ∨ Later q p := by
  let Related (p q : ObjectLoader × ObjectLoader) : Prop := p = q ∨ Later p q ∨ Later q p
  have hsymm : Std.Symm Related := by
    refine ⟨fun p q hpq => ?_⟩
    obtain rfl | hpq | hpq := hpq
    · exact .inl rfl
    · exact .inr (.inr hpq)
    · exact .inr (.inl hpq)
  have hpairwise : pairs.Pairwise Related := h.ordered.imp fun hpq => .inr (.inl hpq)
  exact hpairwise.forall_of_forall (fun p _ => .inl rfl) hp hq

theorem Mirrors.number_lt_iff (h : Mirrors pairs cache other) {p q : ObjectLoader × ObjectLoader}
    (hp : p ∈ pairs) (hq : q ∈ pairs) :
    p.1.id.number < q.1.id.number ↔ p.2.id.number < q.2.id.number := by
  obtain rfl | ⟨h₁, h₂⟩ | ⟨h₁, h₂⟩ := h.trichotomy hp hq
  · simp only [Nat.lt_irrefl]
  · exact ⟨fun hlt => absurd hlt (Nat.lt_asymm h₁), fun hlt => absurd hlt (Nat.lt_asymm h₂)⟩
  · exact ⟨fun _ => h₂, fun _ => h₁⟩

theorem Mirrors.eq_iff (h : Mirrors pairs cache other) {p q : ObjectLoader × ObjectLoader}
    (hp : p ∈ pairs) (hq : q ∈ pairs) : p.1 = q.1 ↔ p.2 = q.2 := by
  have hlater : ∀ {p q : ObjectLoader × ObjectLoader}, Later p q → p.1 ≠ q.1 ∧ p.2 ≠ q.2 :=
    fun hpq => ⟨fun he => absurd (he ▸ hpq.1) (Nat.lt_irrefl _),
      fun he => absurd (he ▸ hpq.2) (Nat.lt_irrefl _)⟩
  obtain rfl | hpq | hpq := h.trichotomy hp hq
  · exact ⟨fun _ => rfl, fun _ => rfl⟩
  · exact ⟨fun he => absurd he (hlater hpq).1, fun he => absurd he (hlater hpq).2⟩
  · exact ⟨fun he => absurd he.symm (hlater hpq).1, fun he => absurd he.symm (hlater hpq).2⟩

theorem Mirrors.size_eq (h : Mirrors pairs cache other) : other.forget.size = cache.forget.size := by
  simp [LoaderCache.size, forget, h.loaders, h.others]

end Mirrors

section Answers

variable {engines : EngineTable} {requests kept : List Request}

theorem answers_of_mem_loadersOf {l : ObjectLoader} (h : l ∈ (ofEngines engines).loadersOf requests) :
    Answers engines requests l := by
  suffices hrun : ∀ cache : ObjectCache, l ∈ cache.loadersOf requests →
      ∃ earlier r, earlier ++ [r] <+: requests ∧ ((cache.after earlier).obtain r).1 = .ok l from
    hrun _ h
  clear h
  induction requests with
  | nil => intro cache h; cases h
  | cons r rest ih =>
    intro cache h
    have hlater (hl : l ∈ (cache.obtain r).2.loadersOf rest) : ∃ earlier q,
        earlier ++ [q] <+: r :: rest ∧ ((cache.after earlier).obtain q).1 = .ok l := by
      obtain ⟨earlier, q, hprefix, hq⟩ := ih _ hl
      exact ⟨r :: earlier, q, List.cons_prefix_cons.mpr ⟨rfl, hprefix⟩, hq⟩
    cases hanswer : (cache.obtain r).1 with
    | error e =>
      rw [loadersOf_cons_of_error hanswer] at h
      exact hlater h
    | ok k =>
      rw [loadersOf_cons_of_ok hanswer] at h
      obtain rfl | hl := List.mem_cons.mp h
      · exact ⟨[], r, ⟨rest, rfl⟩, hanswer⟩
      · exact hlater hl

theorem Answers.agree {k l : ObjectLoader} (hk : Answers engines requests k)
    (hl : Answers engines kept l) (h : k.forget.renumber l.id = l.forget) : k.Agree l where
  key := congrArg ModuleLoader.key h
  origins := congrArg ModuleLoader.origins h
  classNames := by
    have hnames := congrArg ModuleLoader.classNames h
    simpa [ModuleLoader.classNames, ModuleLoader.renumber, ObjectLoader.forget,
      ObjectLoader.classNames] using hnames
  lookup := by
    intro name
    have hfound : (l.lookup name).map ClassObject.contents =
        ((k.lookup name).map ClassObject.contents).map (.renumber l.id) := by
      rw [hl.lookup_forget, hk.lookup_forget, ← h, ModuleLoader.lookup_renumber]
    cases hko : k.lookup name with
    | error e =>
      rw [hko] at hfound
      cases hlo : l.lookup name with
      | error e' =>
        rw [hlo] at hfound
        cases hfound
        exact .error e
      | ok p => rw [hlo] at hfound; cases hfound
    | ok o =>
      rw [hko] at hfound
      cases hlo : l.lookup name with
      | error e' => rw [hlo] at hfound; cases hfound
      | ok p =>
        rw [hlo] at hfound
        exact .ok (Except.ok.inj hfound).symm

theorem Answers.number_eq_iff {k l : ObjectLoader} (hk : Answers engines requests k)
    (hl : Answers engines requests l) {name other : String} {o p : ClassObject}
    (ho : k.lookup name = .ok o) (hp : l.lookup other = .ok p) :
    o.number = p.number ↔
      name = other ∧ (k.Shares name ↔ l.Shares other) ∧ (¬ k.Shares name → k = l) := by
  rw [hk.eq_iff_identity_eq hl ho hp, hk.identity_lookup ho, hl.identity_lookup hp, Prod.mk.injEq,
    and_comm]
  refine and_congr_right fun hname => ?_
  have hid : k.id = l.id ↔ k = l := ⟨hk.eq_of_id_eq hl, fun h => by rw [h]⟩
  by_cases hks : k.Shares name <;> by_cases hls : l.Shares other <;> simp [hks, hls, hid]

end Answers

section Unused

/-- The number was taken, but no loader has it. -/
structure Unused (n : Nat) (cache : ObjectCache) : Prop where
  taken : n < cache.nextNumber
  free : ∀ l ∈ cache.loaders, l.id.number ≠ n

theorem Unused.obtain {n : Nat} {cache : ObjectCache} (h : Unused n cache) (r : Request) :
    Unused n (cache.obtain r).2 := by
  cases hfound : cache.loaders.find? fun l => l.key = r.key with
  | some l => rwa [obtain_of_find? hfound]
  | none =>
    rw [obtain_of_not_found hfound]
    refine ⟨by rw [nextNumber_build]; exact Nat.lt_succ_of_lt h.taken, ?_⟩
    obtain ⟨e, -, hloaders⟩ | ⟨l, -, hid, hloaders⟩ := cache.loaders_build r
    · rw [hloaders]
      exact h.free
    · rw [hloaders]
      refine List.forall_mem_cons.mpr ⟨?_, h.free⟩
      rw [hid]
      exact Nat.ne_of_gt h.taken

theorem Unused.after {n : Nat} {cache : ObjectCache} (h : Unused n cache) (requests : List Request) :
    Unused n (cache.after requests) := by
  induction requests generalizing cache with
  | nil => exact h
  | cons r rest ih => exact ih (h.obtain r)

theorem unused_of_failed {engines : EngineTable} {earlier : List Request} {r : Request} {e : Failure}
    (h : (((ofEngines engines).after earlier).obtain r).1 = .error e) (later : List Request) :
    Unused ((ofEngines engines).after earlier).nextNumber
      ((ofEngines engines).after (earlier ++ [r] ++ later)) := by
  obtain ⟨hloaders, -, hnumber⟩ := loaders_of_failed h
  have hbelow := ((LoaderCache.numbered_ofEngines engines).after earlier).below
  rw [show LoaderCache.ofEngines engines = (ofEngines engines).forget from rfl, ← after_forget]
    at hbelow
  have hunused : Unused ((ofEngines engines).after earlier).nextNumber
      (((ofEngines engines).after earlier).obtain r).2 := by
    refine ⟨by rw [hnumber]; exact Nat.lt_succ_self _, fun l hl => ?_⟩
    rw [hloaders] at hl
    exact Nat.ne_of_lt (hbelow l.forget (List.mem_map_of_mem hl))
  rw [after_append, after_append]
  exact hunused.after later

theorem Unused.definer?_ne {engines : EngineTable} {requests : List Request} {n : Nat}
    (h : Unused n ((ofEngines engines).after requests)) {o : ClassObject}
    (ho : ((ofEngines engines).after requests).Known o) : o.contents.definer? ≠ some ⟨n⟩ := by
  obtain ⟨name, hhost⟩ | ⟨l, hl, name, hown⟩ := ho
  · rw [((sound_ofEngines engines).after requests).hosted name o hhost]
    exact nofun
  · have hdefiner : o.contents.definer? = some l.id :=
      congrArg Prod.fst (get?_classes_of_mem_loaders hl hown).1
    rw [hdefiner]
    intro hid
    exact h.free l hl (congrArg LoaderId.number (Option.some.inj hid))

end Unused

/-- Requests that fail can be left out. The others come to loaders that differ from those they come to
otherwise in nothing but numbers: two of the loaders, and two of their objects, are the same in one run
if they are in the other, and the numbers of the loaders are in the same order. A request that fails
leaves the number of loaders and what any later request finds as it was, and no class was ever defined
by the loader that it did not come to. -/
theorem failures_do_not_show (engines : EngineTable) (requests : List Request) :
    let start := ofEngines engines
    let kept := start.accepted requests
    let pairs := (start.loadersOf requests).zip (start.loadersOf kept)
    start.answers kept = (start.loadersOf kept).map .ok ∧
    (start.loadersOf requests).length = (start.loadersOf kept).length ∧
    (∀ p ∈ pairs, p.1.Agree p.2) ∧
    (∀ p ∈ pairs, ∀ q ∈ pairs,
      (p.1.id.number < q.1.id.number ↔ p.2.id.number < q.2.id.number) ∧ (p.1 = q.1 ↔ p.2 = q.2) ∧
      ∀ name other a b a' b', p.1.lookup name = .ok a → q.1.lookup other = .ok b →
        p.2.lookup name = .ok a' → q.2.lookup other = .ok b' →
          (a.number = b.number ↔ a'.number = b'.number)) ∧
    (start.after kept).forget.size = (start.after requests).forget.size ∧
    ∀ earlier r e, earlier ++ [r] <+: requests →
      ((start.after earlier).obtain r).1 = .error e →
        ((start.after earlier).obtain r).2.forget.size = (start.after earlier).forget.size ∧
        (∀ q l, (start.after earlier).obtain q = (.ok l, start.after earlier) →
          ((start.after earlier).obtain r).2.obtain q = (.ok l, ((start.after earlier).obtain r).2)) ∧
        ∀ o, (start.after requests).Known o →
          o.contents.definer? ≠ some ⟨(start.after earlier).nextNumber⟩ := by
  intro start kept pairs
  obtain ⟨made, others, hrun, hanswers, hforall⟩ := (mirrors_ofEngines engines).run requests
  rw [List.append_nil] at hrun hforall
  have hothers : start.loadersOf kept = others := by
    rw [loadersOf, hanswers, List.filterMap_map]
    exact List.filterMap_some
  have hpairs : ∀ p ∈ pairs, p ∈ made := by
    intro p hp
    rw [show pairs = _ from congrArg (List.zip _) hothers] at hp
    exact (List.forall₂_iff_zip.mp hforall).2 hp
  have hfirst : ∀ p ∈ pairs, Answers engines requests p.1 := fun p hp =>
    answers_of_mem_loadersOf (List.of_mem_zip hp).1
  have hsecond : ∀ p ∈ pairs, Answers engines kept p.2 := fun p hp =>
    answers_of_mem_loadersOf (List.of_mem_zip hp).2
  have hagree : ∀ p ∈ pairs, p.1.Agree p.2 := fun p hp =>
    (hfirst p hp).agree (hsecond p hp) (hrun.same p (hpairs p hp))
  refine ⟨by rw [hothers]; exact hanswers, by rw [hothers]; exact hforall.length_eq, hagree, ?_,
    hrun.size_eq, ?_⟩
  · intro p hp q hq
    have hsame := hrun.eq_iff (hpairs p hp) (hpairs q hq)
    refine ⟨hrun.number_lt_iff (hpairs p hp) (hpairs q hq), hsame, ?_⟩
    intro name other a b a' b' ha hb ha' hb'
    have hpshares : p.1.Shares name ↔ p.2.Shares name := by
      rw [ObjectLoader.Shares, (hagree p hp).key, ObjectLoader.Shares]
    have hqshares : q.1.Shares other ↔ q.2.Shares other := by
      rw [ObjectLoader.Shares, (hagree q hq).key, ObjectLoader.Shares]
    rw [(hfirst p hp).number_eq_iff (hfirst q hq) ha hb,
      (hsecond p hp).number_eq_iff (hsecond q hq) ha' hb', hpshares, hqshares, hsame]
  · rintro earlier r e ⟨later, rfl⟩ hfailed
    refine ⟨?_, fun q l => hit_of_failed hfailed, fun o ho => ?_⟩
    · rw [LoaderCache.size, forget, (loaders_of_failed hfailed).1]
      rfl
    · exact (unused_of_failed hfailed later).definer?_ne ho

theorem failures_do_not_show_copied :
    let start := ofEngines .builtins
    let kept := start.accepted copiedRequests
    (start.loadersOf copiedRequests).map ObjectLoader.id = [⟨1⟩, ⟨3⟩] ∧
      (start.loadersOf kept).map ObjectLoader.id = [⟨1⟩, ⟨2⟩] ∧
      (∀ p ∈ (start.loadersOf copiedRequests).zip (start.loadersOf kept), p.1.Agree p.2) ∧
      ∀ o, (start.after copiedRequests).Known o → o.contents.definer? ≠ some ⟨2⟩ := by
  intro start kept
  obtain ⟨-, -, hagree, -, -, hfailures⟩ := failures_do_not_show .builtins copiedRequests
  refine ⟨by decide +kernel, by decide +kernel, hagree, ?_⟩
  have hfailed : ((start.after (copiedRequests.take 1)).obtain copiedRequests[1]).1.isOk = false := by
    decide +kernel
  cases hanswer : ((start.after (copiedRequests.take 1)).obtain copiedRequests[1]).1 with
  | ok l => rw [hanswer] at hfailed; cases hfailed
  | error e =>
    have hnumber : (start.after (copiedRequests.take 1)).nextNumber = 2 := by decide +kernel
    obtain ⟨-, -, hunused⟩ := hfailures _ _ e ⟨copiedRequests.drop 2, rfl⟩ hanswer
    rwa [hnumber] at hunused

end ObjectCache

end FormatterModules
