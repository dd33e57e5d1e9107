import FormatterModules.Loader.Objects
import FormatterModules.Proofs.Ordered.Map
import FormatterModules.Proofs.Ordered.Set

namespace FormatterModules

namespace ClassObjects

theorem ofHost_cases (objects : ClassObjects) (name : String) :
    (∃ o, objects.host.get? name = some o ∧ objects.ofHost name = (o, objects)) ∨
    objects.host.get? name = none ∧
      objects.ofHost name = (⟨objects.count, .ofHost name⟩,
        ⟨objects.host.insert name ⟨objects.count, .ofHost name⟩, objects.count + 1⟩) := by
  cases h : objects.host.get? name with
  | some o => exact .inl ⟨o, rfl, by rw [ofHost, h]⟩
  | none => exact .inr ⟨rfl, by rw [ofHost, h]; rfl⟩

/-- Objects that are known have different numbers, all below the number of the next object. -/
structure Apart (objects : ClassObjects) (known : ClassObject → Prop) : Prop where
  below : ∀ o, known o → o.number < objects.count
  unique : ∀ o p, known o → known p → o.number = p.number → o = p

theorem Apart.mono {objects : ClassObjects} {known fewer : ClassObject → Prop}
    (h : Apart objects known) (hf : ∀ o, fewer o → known o) : Apart objects fewer where
  below o ho := h.below o (hf o ho)
  unique o p ho hp := h.unique o p (hf o ho) (hf p hp)

theorem Apart.make {objects : ClassObjects} {known : ClassObject → Prop} (h : Apart objects known)
    (c : ModuleClass) :
    Apart (objects.make c).2 fun o => known o ∨ o = (objects.make c).1 where
  below o ho := by
    rcases ho with ho | rfl
    · exact Nat.lt_succ_of_lt (h.below o ho)
    · exact Nat.lt_succ_self _
  unique o p ho hp heq := by
    rcases ho with ho | rfl <;> rcases hp with hp | rfl
    · exact h.unique o p ho hp heq
    · exact absurd heq (Nat.ne_of_lt (h.below o ho))
    · exact absurd heq.symm (Nat.ne_of_lt (h.below p hp))
    · rfl

def In (map : ObjectMap) (o : ClassObject) : Prop := ∃ name, map.get? name = some o

theorem in_insert {map : ObjectMap} {name : String} {o p : ClassObject}
    (h : In (map.insert name p) o) : In map o ∨ o = p := by
  obtain ⟨n, hn⟩ := h
  rw [OrderedMap.get?_insert] at hn
  split at hn
  · exact .inr (Option.some.inj hn).symm
  · exact .inl ⟨n, hn⟩

section Hosts

variable {objects : ClassObjects} {own : ClassObject → Prop} {name : String}

theorem get?_host_ofHost (objects : ClassObjects) (name n : String) :
    (objects.ofHost name).2.host.get? n =
      if n = name then some (objects.ofHost name).1 else objects.host.get? n := by
  rcases objects.ofHost_cases name with ⟨o, hfound, heq⟩ | ⟨-, heq⟩
  · rw [heq]
    split
    · next h => rw [h, hfound]
    · rfl
  · rw [heq]
    exact OrderedMap.get?_insert _ _ _ _

theorem host_ofHost_keeps {n : String} {o : ClassObject} (h : objects.host.get? n = some o) :
    (objects.ofHost name).2.host.get? n = some o := by
  rw [get?_host_ofHost]
  split
  · next hn =>
    subst n
    rcases objects.ofHost_cases name with ⟨p, hfound, heq⟩ | ⟨hnone, -⟩
    · rw [heq, ← h, hfound]
    · rw [hnone] at h
      cases h
  · exact h

def Hosted (objects : ClassObjects) : Prop :=
  ∀ name o, objects.host.get? name = some o → o.contents = .ofHost name

theorem Hosted.ofHost (h : Hosted objects) (name : String) : Hosted (objects.ofHost name).2 := by
  intro n o ho
  rcases objects.ofHost_cases name with ⟨p, -, heq⟩ | ⟨-, heq⟩
  · rw [heq] at ho
    exact h n o ho
  · rw [heq, OrderedMap.get?_insert] at ho
    split at ho
    · next hn =>
      cases ho
      rw [hn]
    · exact h n o ho

theorem Apart.ofHost (h : Apart objects fun o => In objects.host o ∨ own o) (name : String) :
    Apart (objects.ofHost name).2 fun o => In (objects.ofHost name).2.host o ∨ own o := by
  rcases objects.ofHost_cases name with ⟨p, -, heq⟩ | ⟨-, heq⟩
  · rwa [heq]
  · rw [heq]
    have hfewer : ∀ o, In (objects.host.insert name ⟨objects.count, .ofHost name⟩) o ∨ own o →
        (In objects.host o ∨ own o) ∨ o = ⟨objects.count, .ofHost name⟩ := by
      intro o ho
      rcases ho with hin | hown
      · exact (in_insert hin).imp_left .inl
      · exact .inl (.inr hown)
    have hmade := (h.make (.ofHost name)).mono hfewer
    exact ⟨hmade.below, hmade.unique⟩

/-- A map has the objects of the host under these names, and nothing else. -/
structure Lends (host : ObjectMap) (names : String → Prop) (map : ObjectMap) : Prop where
  lent : ∀ n, names n → ∃ o, host.get? n = some o ∧ map.get? n = some o
  other : ∀ n, ¬ names n → map.get? n = none

theorem Lends.shareName {s : ObjectMap × ClassObjects} {names : String → Prop}
    (h : Lends s.2.host names s.1) (name : String) :
    Lends (shareName s name).2.host (fun n => n = name ∨ names n) (shareName s name).1 where
  lent n hn := by
    have hmap : (ClassObjects.shareName s name).1.get? n =
        if n = name then some (s.2.ofHost name).1 else s.1.get? n := OrderedMap.get?_insert _ _ _ _
    change ∃ o, (s.2.ofHost name).2.host.get? n = some o ∧ _
    by_cases heq : n = name
    · exact ⟨(s.2.ofHost name).1, by rw [get?_host_ofHost, if_pos heq], by rw [hmap, if_pos heq]⟩
    · obtain ⟨o, hhost, hlent⟩ := h.lent n (hn.resolve_left heq)
      exact ⟨o, host_ofHost_keeps hhost, by rw [hmap, if_neg heq, hlent]⟩
  other n hn := by
    rw [not_or] at hn
    have hmap : (ClassObjects.shareName s name).1.get? n =
        if n = name then some (s.2.ofHost name).1 else s.1.get? n := OrderedMap.get?_insert _ _ _ _
    rw [hmap, if_neg hn.1]
    exact h.other n hn.2

/-- What is kept, and what is made, when a loader is given the objects of shared names. -/
structure Shared (own : ClassObject → Prop) (before : ClassObjects) (names : String → Prop)
    (s : ObjectMap × ClassObjects) : Prop where
  keeps : ∀ n o, before.host.get? n = some o → s.2.host.get? n = some o
  hosted : Hosted s.2
  apart : Apart s.2 fun o => In s.2.host o ∨ own o
  lends : Lends s.2.host names s.1

theorem Shared.foldl {before : ClassObjects} {names : String → Prop} (more : List String)
    {s : ObjectMap × ClassObjects} (h : Shared own before names s) :
    Shared own before (fun n => names n ∨ n ∈ more) (more.foldl shareName s) := by
  induction more generalizing s names with
  | nil => simpa using h
  | cons name more ih =>
    have hstep : Shared own before (fun n => n = name ∨ names n) (shareName s name) :=
      ⟨fun n o ho => host_ofHost_keeps (h.keeps n o ho), h.hosted.ofHost name,
        h.apart.ofHost name, h.lends.shareName name⟩
    have hmore := ih hstep
    have hnames : (fun n => (n = name ∨ names n) ∨ n ∈ more) =
        fun n => names n ∨ n ∈ name :: more := by
      funext n
      rw [List.mem_cons, ← or_assoc, or_comm (a := names n)]
    rwa [hnames] at hmore

theorem shared_share (shared : SharedNames) (hosted : Hosted objects)
    (apart : Apart objects fun o => In objects.host o ∨ own o) :
    Shared own objects (fun n => shared.contains n = true) (objects.share shared) := by
  have hstart : Shared own objects (fun _ => False) (.empty, objects) :=
    ⟨fun _ _ h => h, hosted, apart, ⟨fun _ h => h.elim, fun _ _ => rfl⟩⟩
  have hshared := hstart.foldl shared.toList
  rw [share]
  simpa only [false_or, ← OrderedSet.contains_iff] using hshared

end Hosts

section Own

variable {known : ClassObject → Prop}

theorem host_addClass (shared : ObjectMap) (s : ObjectMap × ClassObjects) (c : ModuleClass) :
    (addClass shared s c).2.host = s.2.host := by
  unfold addClass
  split <;> rfl

theorem Apart.addClass {s : ObjectMap × ClassObjects} (h : Apart s.2 fun o => In s.1 o ∨ known o)
    (shared : ObjectMap) (c : ModuleClass) :
    Apart (addClass shared s c).2 fun o => In (addClass shared s c).1 o ∨ known o := by
  unfold ClassObjects.addClass
  split
  · exact h
  · refine (h.make c).mono fun o ho => ?_
    rcases ho with hin | hknown
    · exact (in_insert hin).elim (.inl ∘ .inl) .inr
    · exact .inl (.inr hknown)

theorem define_made (id : LoaderId) (engines : EngineTable) (shared : ObjectMap)
    (as : List Artifact) (s : ObjectMap × ClassObjects)
    (h : Apart s.2 fun o => In s.1 o ∨ known o) :
    (define id engines shared as s).2.host = s.2.host ∧
      Apart (define id engines shared as s).2 known ∧
      ∀ classes, (define id engines shared as s).1 = .ok classes →
        Apart (define id engines shared as s).2 fun o => In classes o ∨ known o := by
  induction as generalizing s with
  | nil =>
    refine ⟨rfl, h.mono fun _ => .inr, ?_⟩
    intro classes hclasses
    cases hclasses
    exact h
  | cons a as ih =>
    unfold define
    cases Manifest.parse a.location.text a.content with
    | error e => exact ⟨rfl, h.mono fun _ => .inr, fun classes hclasses => nomatch hclasses⟩
    | ok m =>
      dsimp only
      have hfold : ∀ (cs : List ModuleClass) (t : ObjectMap × ClassObjects),
          (Apart t.2 fun o => In t.1 o ∨ known o) →
          (cs.foldl (addClass shared) t).2.host = t.2.host ∧
            Apart (cs.foldl (addClass shared) t).2 fun o =>
              In (cs.foldl (addClass shared) t).1 o ∨ known o := by
        intro cs
        induction cs with
        | nil => exact fun t ht => ⟨rfl, ht⟩
        | cons c cs ihc =>
          intro t ht
          obtain ⟨hhost, hapart⟩ := ihc (addClass shared t c) (ht.addClass shared c)
          exact ⟨hhost.trans (host_addClass shared t c), hapart⟩
      obtain ⟨hhost, hapart⟩ := hfold _ s h
      obtain ⟨hdefined, hrest⟩ := ih _ hapart
      exact ⟨hdefined.trans hhost, hrest⟩

end Own

end ClassObjects

namespace ObjectCache

open LoaderCache (Request)
open ClassObjects

def Known (cache : ObjectCache) (o : ClassObject) : Prop :=
  In cache.objects.host o ∨ ∃ l ∈ cache.loaders, In l.classes o

/-- What holds of a cache after any requests. -/
structure Sound (cache : ObjectCache) : Prop where
  apart : Apart cache.objects cache.Known
  hosted : Hosted cache.objects
  lends : ∀ l ∈ cache.loaders, Lends cache.objects.host l.Shares l.shared

theorem sound_ofEngines (engines : EngineTable) : Sound (ofEngines engines) where
  apart := by
    refine ⟨?_, ?_⟩
    · rintro o (⟨name, ho⟩ | ⟨l, hl, -⟩)
      · cases ho
      · cases hl
    · rintro o p (⟨name, ho⟩ | ⟨l, hl, -⟩)
      · cases ho
      · cases hl
  hosted name o ho := by cases ho
  lends l hl := by cases hl

theorem Sound.build {cache : ObjectCache} (h : Sound cache) (r : Request) :
    Sound (cache.build r).2 := by
  have hshared := shared_share r.shared h.hosted h.apart
  have hstart : Apart (cache.shareFor r).2 fun o => In .empty o ∨
      (In (cache.shareFor r).2.host o ∨ ∃ l ∈ cache.loaders, In l.classes o) := by
    refine hshared.apart.mono fun o ho => ho.resolve_left ?_
    rintro ⟨name, hname⟩
    cases hname
  obtain ⟨hhost, hfailed, hmade⟩ := define_made ⟨cache.nextNumber⟩ cache.engines
    (cache.shareFor r).1 r.artifacts.artifacts (.empty, (cache.shareFor r).2) hstart
  have hhosted : Hosted (cache.defineFor r).2 := by
    intro name o ho
    exact hshared.hosted name o (by rw [← ho]; exact congrArg (OrderedMap.get? · name) hhost.symm)
  have hlends : ∀ l ∈ cache.loaders, Lends (cache.defineFor r).2.host l.Shares l.shared := by
    intro l hl
    refine ⟨fun n hn => ?_, (h.lends l hl).other⟩
    obtain ⟨o, ho, hmap⟩ := (h.lends l hl).lent n hn
    exact ⟨o, (congrArg (OrderedMap.get? · n) hhost).trans (hshared.keeps n o ho), hmap⟩
  unfold ObjectCache.build
  cases hd : (cache.defineFor r).1 with
  | error e =>
    refine ⟨hfailed.mono fun o ho => ?_, hhosted, hlends⟩
    exact ho.imp_left fun hin => by rwa [← hhost]
  | ok classes =>
    refine ⟨(hmade classes hd).mono fun o ho => ?_, hhosted, ?_⟩
    · rcases ho with hin | ⟨l, hl, hin⟩
      · exact .inr (.inl (by rwa [← hhost]))
      · rcases List.mem_cons.mp hl with rfl | hl
        · exact .inl hin
        · exact .inr (.inr ⟨l, hl, hin⟩)
    · intro l hl
      rcases List.mem_cons.mp hl with rfl | hl
      · change Lends (cache.defineFor r).2.host (fun n => r.shared.contains n = true)
          (cache.shareFor r).1
        rw [show (cache.defineFor r).2.host = (cache.shareFor r).2.host from hhost]
        exact hshared.lends
      · exact hlends l hl

theorem Sound.after {cache : ObjectCache} (h : Sound cache) (requests : List Request) :
    Sound (cache.after requests) := by
  induction requests generalizing cache with
  | nil => exact h
  | cons r rest ih =>
    refine ih ?_
    unfold obtain
    cases cache.loaders.find? fun l => l.key = r.key with
    | some l => exact h
    | none => exact h.build r

end ObjectCache

end FormatterModules
