import FormatterModules.Proofs.Loader.Cache
import FormatterModules.Proofs.Loader.Slots

namespace FormatterModules.LoaderCache.Calls

variable {ι : Type} [DecidableEq ι] {calls later : Calls ι}

/-- The calls came to what a cache holds that answers one call after another. -/
structure Shows (calls : Calls ι) (cache : LoaderCache) : Prop where
  engines : calls.engines = cache.engines
  stored : ∀ key l, calls.Stored key l ↔ cache.find? key = some l
  nextNumber : calls.nextNumber = cache.nextNumber
  size : calls.size = cache.size

omit [DecidableEq ι] in
theorem shows_start (engines : EngineTable) (request : ι → Request) :
    Shows (start engines request) (.ofEngines engines) where
  engines := rfl
  stored key l := by
    constructor
    · rintro ⟨slot, hslot, _⟩
      cases hslot
    · intro hl
      cases hl
  nextNumber := rfl
  size := rfl

theorem request_moves (m : Relation.ReflTransGen Move calls later) :
    later.engines = calls.engines ∧ later.request = calls.request := by
  induction m with
  | refl => exact ⟨rfl, rfl⟩
  | tail _ m ih => cases m <;> exact ih

/-- All calls but one stay as they are. -/
def Beside (calls next : Calls ι) (i : ι) : Prop := ∀ j, j ≠ i → next.phase j = calls.phase j

/-- A call found the slot of its key, and nothing else happened. -/
structure Found (calls found : Calls ι) (i : ι) (slot : Nat) : Prop where
  move : Move calls found
  beside : Beside calls found i
  waiting : found.phase i = .waiting slot
  nextNumber : found.nextNumber = calls.nextNumber
  size : found.size = calls.size

theorem exists_found {i : ι} (hi : calls.phase i = .entering) :
    ∃ found slot, Found calls found i slot := by
  cases hslot : calls.slotOf? (calls.key i) with
  | some slot =>
    exact ⟨_, slot, .find calls i slot hi hslot, fun j hj => enter_of_ne calls hj _,
      enter_self calls i _, rfl, rfl⟩
  | none =>
    exact ⟨_, _, .add calls i hi hslot, fun j hj => enter_of_ne (calls.addSlot _) hj _,
      enter_self (calls.addSlot _) i _, rfl, rfl⟩

theorem Found.not_isLocked {found : Calls ι} {i : ι} {slot : Nat} (h : Found calls found i slot)
    (free : ¬ calls.IsLocked slot) : ¬ found.IsLocked slot := by
  rintro ⟨j, hj⟩
  by_cases hij : j = i
  · subst j
    rw [h.waiting] at hj
    cases hj
  · exact free ⟨j, h.beside j hij ▸ hj⟩

theorem filled_moves {i : ι} {slot : Nat} {l : ModuleLoader} (hi : calls.phase i = .waiting slot)
    (free : ¬ calls.IsLocked slot) (hl : calls.loader? slot = some l) :
    ∃ later, Move calls later ∧ Beside calls later i ∧ later.phase i = .returned (.ok l) ∧
      later.nextNumber = calls.nextNumber ∧ later.size = calls.size :=
  ⟨_, .hit calls i slot l hi free hl, fun _ hj => enter_of_ne calls hj _, enter_self calls i _,
    rfl, rfl⟩

theorem empty_moves {i : ι} {slot : Nat} (hi : calls.phase i = .waiting slot)
    (free : ¬ calls.IsLocked slot) (hl : calls.loader? slot = none) :
    ∃ taken, Relation.ReflTransGen Move calls taken ∧ Beside calls taken i ∧
      taken.phase i = .building slot ⟨calls.nextNumber⟩ ∧
      taken.nextNumber = calls.nextNumber + 1 ∧ taken.size = calls.size := by
  have hmissing : (calls.enter i (.missing slot)).phase i = .missing slot := enter_self calls i _
  refine ⟨_, .tail (.single (.miss calls i slot hi free hl)) (.number _ i slot hmissing), ?_,
    enter_self _ i _, rfl, rfl⟩
  intro j hj
  exact (enter_of_ne (calls.enter i (.missing slot)).takeNumber hj _).trans (enter_of_ne calls hj _)

theorem building_moves {i : ι} {slot : Nat} {id : LoaderId}
    (hi : calls.phase i = .building slot id) :
    ∃ later, Relation.ReflTransGen Move calls later ∧ Beside calls later i ∧
      later.phase i = .returned (calls.made i id) ∧ later.nextNumber = calls.nextNumber ∧
      later.size = calls.size + if (calls.made i id).toBool then 1 else 0 := by
  cases hmade : calls.made i id with
  | error e =>
    exact ⟨_, .single (.fail calls i slot id e hi hmade), fun j hj => enter_of_ne calls hj _,
      enter_self calls i _, rfl, rfl⟩
  | ok l =>
    have hstoring : (calls.count.enter i (.storing slot l)).phase i = .storing slot l :=
      enter_self calls.count i _
    refine ⟨_, .tail (.single (.build calls i slot id l hi hmade)) (.store _ i slot l hstoring), ?_,
      enter_self _ i _, rfl, rfl⟩
    intro j hj
    exact (enter_of_ne ((calls.count.enter i (.storing slot l)).fill slot l) hj _).trans
      (enter_of_ne calls.count hj _)

theorem Reachable.stored_beside (h : Reachable calls) (m : Relation.ReflTransGen Move calls later)
    {i : ι} (hb : Beside calls later i) {result : Except Failure ModuleLoader}
    (hi : calls.phase i = .entering) (hr : later.phase i = .returned result) (key : LoaderKey)
    (l : ModuleLoader) :
    later.Stored key l ↔ calls.Stored key l ∨ calls.key i = key ∧ result = .ok l := by
  have hkey : ∀ j, later.key j = calls.key j := fun j =>
    congrArg Request.key (congrFun (request_moves m).2 j)
  rw [h.stored_iff, (h.moves m).stored_iff]
  constructor
  · rintro ⟨j, hj, hl⟩
    by_cases hij : j = i
    · subst j
      rw [hr] at hl
      cases hl
      exact Or.inr ⟨(hkey i).symm.trans hj, rfl⟩
    · exact Or.inl ⟨j, (hkey j).symm.trans hj, (hb j hij).symm.trans hl⟩
  · rintro (⟨j, hj, hl⟩ | ⟨hk, rfl⟩)
    · have hij : j ≠ i := by
        rintro rfl
        cases hi.symm.trans hl
      exact ⟨j, (hkey j).trans hj, (hb j hij).trans hl⟩
    · exact ⟨i, (hkey i).trans hk, hr⟩

theorem Reachable.shows_beside (h : Reachable calls) (m : Relation.ReflTransGen Move calls later)
    {i : ι} (hb : Beside calls later i) {cache cache' : LoaderCache}
    {result : Except Failure ModuleLoader} (hi : calls.phase i = .entering)
    (hr : later.phase i = .returned result) (hc : Shows calls cache)
    (hengines : cache'.engines = cache.engines)
    (hfind : ∀ key l, cache'.find? key = some l ↔
      cache.find? key = some l ∨ calls.key i = key ∧ result = .ok l)
    (hnumber : later.nextNumber = cache'.nextNumber) (hsize : later.size = cache'.size) :
    Shows later cache' where
  engines := by rw [(request_moves m).1, hc.engines, hengines]
  stored key l := by rw [h.stored_beside m hb hi hr, hc.stored, hfind]
  nextNumber := hnumber
  size := hsize

section Answers

variable {found : Calls ι} {cache : LoaderCache} {i : ι} {slot : Nat}

theorem Reachable.loader?_found (h : Reachable calls) (hc : Shows calls cache)
    (hfound : Found calls found i slot) (free : ∀ slot, ¬ calls.IsLocked slot) (l : ModuleLoader) :
    found.loader? slot = some l ↔ cache.find? (calls.key i) = some l := by
  have hslot : found.slotOf? (found.key i) = some slot :=
    (h.move _ _ hfound.move).placed.place i slot (by rw [hfound.waiting]; rfl)
  rw [hfound.move.key_eq i] at hslot
  rw [← hc.stored]
  constructor
  · intro hl
    refine (h.stored_inv hfound.move ⟨slot, hslot, hl⟩).resolve_right ?_
    rintro ⟨j, s, _, hj, _⟩
    exact free s ⟨j, by rw [hj]; rfl⟩
  · intro hs
    obtain ⟨s, hs, hl⟩ := h.stored_move hfound.move hs
    cases hslot.symm.trans hs
    exact hl

theorem Reachable.hit_moves (h : Reachable calls) (hc : Shows calls cache)
    (hi : calls.phase i = .entering) (hfound : Found calls found i slot)
    (free : ¬ calls.IsLocked slot) {l : ModuleLoader} (hl : found.loader? slot = some l)
    (hcached : cache.find? (calls.key i) = some l) :
    ∃ later, Relation.ReflTransGen Move calls later ∧ Beside calls later i ∧
      later.phase i = .returned (.ok l) ∧ Shows later cache := by
  obtain ⟨later, hhit, hbeside, hreturned, hnumber, hsize⟩ :=
    filled_moves hfound.waiting (hfound.not_isLocked free) hl
  have hmoves : Relation.ReflTransGen Move calls later := .tail (.single hfound.move) hhit
  have hall : Beside calls later i := fun j hj => (hbeside j hj).trans (hfound.beside j hj)
  refine ⟨later, hmoves, hall, hreturned, ?_⟩
  refine h.shows_beside hmoves hall hi hreturned hc rfl (fun key k => ?_) ?_ ?_
  · refine ⟨Or.inl, fun hk => hk.elim id ?_⟩
    rintro ⟨rfl, hkl⟩
    cases hkl
    exact hcached
  · rw [hnumber, hfound.nextNumber, hc.nextNumber]
  · rw [hsize, hfound.size, hc.size]

theorem Reachable.miss_moves (h : Reachable calls) (hc : Shows calls cache)
    (hi : calls.phase i = .entering) (hfound : Found calls found i slot)
    (free : ¬ calls.IsLocked slot) (hl : found.loader? slot = none)
    (hnone : cache.find? (calls.key i) = none) :
    let r := calls.request i
    ∃ later, Relation.ReflTransGen Move calls later ∧ Beside calls later i ∧
      later.phase i = .returned (cache.build r.artifacts r.shared).1 ∧
      Shows later (cache.build r.artifacts r.shared).2 := by
  intro r
  obtain ⟨taken, htake, hbt, hbuilding, hnumber, hsize⟩ :=
    empty_moves hfound.waiting (hfound.not_isLocked free) hl
  obtain ⟨later, hbuild, hbl, hreturned, hnumber', hsize'⟩ := building_moves hbuilding
  have hmoves : Relation.ReflTransGen Move calls taken := .head hfound.move htake
  have hmade : taken.made i ⟨found.nextNumber⟩ =
      (cache.takeNumber.2.make ⟨cache.nextNumber⟩ r.artifacts r.shared).1 := by
    obtain ⟨hengines, hrequest⟩ := request_moves hmoves
    rw [fst_make, made, hengines, hrequest, hfound.nextNumber, hc.nextNumber, hc.engines]
    rfl
  have hbeside : Beside calls later i := fun j hj =>
    (hbl j hj).trans ((hbt j hj).trans (hfound.beside j hj))
  rw [hmade] at hreturned hsize'
  refine ⟨later, hmoves.trans hbuild, hbeside, hreturned, ?_⟩
  change Shows later (cache.takeNumber.2.make ⟨cache.nextNumber⟩ r.artifacts r.shared).2
  refine h.shows_beside (hmoves.trans hbuild) hbeside hi hreturned hc ?_ (fun key k => ?_) ?_ ?_
  · rw [engines_make]
    rfl
  · exact find?_make_iff cache.takeNumber.2 ⟨cache.nextNumber⟩ hnone key k
  · rw [nextNumber_make, hnumber', hnumber, hfound.nextNumber, hc.nextNumber]
    rfl
  · rw [size_make, hsize', hsize, hfound.size, hc.size]
    rfl

theorem Reachable.obtain_moves (h : Reachable calls) (hc : Shows calls cache)
    (hi : calls.phase i = .entering) (free : ∀ slot, ¬ calls.IsLocked slot) :
    let r := calls.request i
    ∃ later, Relation.ReflTransGen Move calls later ∧ Beside calls later i ∧
      later.phase i = .returned (cache.obtain r.artifacts r.shared).1 ∧
      Shows later (cache.obtain r.artifacts r.shared).2 := by
  intro r
  obtain ⟨found, slot, hfound⟩ := exists_found hi
  have hloader := h.loader?_found hc hfound free
  unfold obtain
  cases hcached : cache.find? (.of r.artifacts r.shared) with
  | some l => exact h.hit_moves hc hi hfound (free slot) ((hloader l).mpr hcached) hcached
  | none =>
    have hl : found.loader? slot = none := by
      refine Option.eq_none_iff_forall_ne_some.mpr fun l hl => ?_
      cases hcached.symm.trans ((hloader l).mp hl)
    exact h.miss_moves hc hi hfound (free slot) hl hcached

end Answers

end FormatterModules.LoaderCache.Calls
