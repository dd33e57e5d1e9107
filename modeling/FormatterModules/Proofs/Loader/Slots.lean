import FormatterModules.Loader.Threads
import Mathlib.Logic.Relation

namespace FormatterModules.LoaderCache

theorem Phase.slot?_of_held? {phase : Phase} {slot : Nat} (h : phase.held? = some slot) :
    phase.slot? = some slot := by
  cases phase <;> simp_all [held?, slot?]

namespace Calls

variable {ι : Type}

/-- The slot of a key holds a loader. -/
def Stored (calls : Calls ι) (key : LoaderKey) (l : ModuleLoader) : Prop :=
  ∃ slot, calls.slotOf? key = some slot ∧ calls.loader? slot = some l

/-- Some call for a key came to a loader. -/
def Answered (calls : Calls ι) (key : LoaderKey) (l : ModuleLoader) : Prop :=
  ∃ i, calls.key i = key ∧ calls.phase i = .returned (.ok l)

/-- How a call comes from one phase to the next, and what it finds or leaves in its slot. -/
inductive Turn (calls next : Calls ι) (i : ι) : Phase → Phase → Prop
  | wait (slot : Nat) : Turn calls next i .entering (.waiting slot)
  | hit (slot : Nat) (l : ModuleLoader) (filled : calls.loader? slot = some l) :
      Turn calls next i (.waiting slot) (.returned (.ok l))
  | miss (slot : Nat) (free : ¬ calls.IsLocked slot) (empty : calls.loader? slot = none) :
      Turn calls next i (.waiting slot) (.missing slot)
  | number (slot : Nat) (id : LoaderId) : Turn calls next i (.missing slot) (.building slot id)
  | fail (slot : Nat) (id : LoaderId) (e : Failure) (failed : calls.made i id = .error e) :
      Turn calls next i (.building slot id) (.returned (.error e))
  | build (slot : Nat) (id : LoaderId) (l : ModuleLoader) (built : calls.made i id = .ok l) :
      Turn calls next i (.building slot id) (.storing slot l)
  | store (slot : Nat) (l : ModuleLoader) (filled : next.loader? slot = some l) :
      Turn calls next i (.storing slot l) (.returned (.ok l))

variable [DecidableEq ι] {calls next later : Calls ι}

@[simp] theorem enter_self (calls : Calls ι) (i : ι) (phase : Phase) :
    (calls.enter i phase).phase i = phase := by
  simp [enter]

@[simp] theorem enter_of_ne (calls : Calls ι) {i j : ι} (h : j ≠ i) (phase : Phase) :
    (calls.enter i phase).phase j = calls.phase j := by
  simp [enter, h]

theorem enter_cases (calls : Calls ι) (i j : ι) (phase : Phase) :
    j = i ∧ (calls.enter i phase).phase j = phase ∨
      j ≠ i ∧ (calls.enter i phase).phase j = calls.phase j := by
  by_cases h : j = i
  · subst j
    exact Or.inl ⟨rfl, enter_self calls i phase⟩
  · exact Or.inr ⟨h, enter_of_ne calls h phase⟩

theorem turn_enter (calls changed : Calls ι) (hsame : changed.phase = calls.phase) (i : ι)
    (phase : Phase) (h : Turn calls (changed.enter i phase) i (calls.phase i) phase) (j : ι) :
    (changed.enter i phase).phase j = calls.phase j ∨
      Turn calls (changed.enter i phase) j (calls.phase j) ((changed.enter i phase).phase j) := by
  obtain ⟨rfl, he⟩ | ⟨_, he⟩ := enter_cases changed i j phase
  · rw [he]
    exact Or.inr h
  · exact Or.inl (he.trans (congrFun hsame j))

theorem Move.turn (m : Move calls next) (i : ι) :
    next.phase i = calls.phase i ∨ Turn calls next i (calls.phase i) (next.phase i) := by
  cases m with
  | find j slot h known => exact turn_enter calls calls rfl j _ (by rw [h]; exact .wait slot) i
  | add j h unknown => exact turn_enter calls (calls.addSlot _) rfl j _ (by rw [h]; exact .wait _) i
  | hit j slot l h free filled =>
    exact turn_enter calls calls rfl j _ (by rw [h]; exact .hit slot l filled) i
  | miss j slot h free empty =>
    exact turn_enter calls calls rfl j _ (by rw [h]; exact .miss slot free empty) i
  | number j slot h =>
    exact turn_enter calls calls.takeNumber rfl j _ (by rw [h]; exact .number slot _) i
  | fail j slot id e h failed =>
    exact turn_enter calls calls rfl j _ (by rw [h]; exact .fail slot id e failed) i
  | build j slot id l h built =>
    exact turn_enter calls calls.count rfl j _ (by rw [h]; exact .build slot id l built) i
  | store j slot l h =>
    exact turn_enter calls (calls.fill slot l) rfl j _
      (by rw [h]; exact .store slot l (if_pos rfl)) i

theorem Move.key_eq (m : Move calls next) (i : ι) : next.key i = calls.key i := by
  cases m <;> rfl

theorem Move.made_eq (m : Move calls next) (i : ι) : next.made i = calls.made i := by
  cases m <;> rfl

theorem Move.returned_eq (m : Move calls next) {i : ι} {result : Except Failure ModuleLoader}
    (h : calls.phase i = .returned result) : next.phase i = .returned result := by
  obtain hstay | hturn := m.turn i
  · exact hstay.trans h
  · rw [h] at hturn
    cases hturn

theorem Move.slotOf?_eq (m : Move calls next) {key : LoaderKey} {slot : Nat}
    (h : calls.slotOf? key = some slot) : next.slotOf? key = some slot := by
  cases m with
  | add i hi unknown =>
    have hne : key ≠ calls.key i := by
      rintro rfl
      rw [unknown] at h
      cases h
    exact (if_neg hne).trans h
  | _ => exact h

theorem Move.slotOf?_inv (m : Move calls next) {key : LoaderKey} {slot : Nat}
    (h : next.slotOf? key = some slot) :
    calls.slotOf? key = some slot ∨ next.loader? slot = none := by
  cases m with
  | add i hi unknown =>
    change (if key = calls.key i then _ else _) = some slot at h
    split at h
    · exact Or.inr (if_pos (Option.some.inj h).symm)
    · exact Or.inl h
  | _ => exact Or.inl h

theorem Move.loader?_inv (m : Move calls next) {slot : Nat} {l : ModuleLoader}
    (h : next.loader? slot = some l) :
    calls.loader? slot = some l ∨
      ∃ i, calls.phase i = .storing slot l ∧ next.phase i = .returned (.ok l) := by
  cases m with
  | add i hi unknown =>
    change (if slot = calls.slotCount then none else _) = some l at h
    split at h
    · cases h
    · exact Or.inl h
  | store i s k hi =>
    change (if slot = s then some k else _) = some l at h
    split at h
    next hs =>
      obtain rfl := Option.some.inj h
      subst s
      exact Or.inr ⟨i, hi, enter_self _ i _⟩
    next => exact Or.inl h
  | _ => exact Or.inl h

/-- Calls on their way have found the slots of their keys, and no two keys have one slot. -/
structure Placed (calls : Calls ι) : Prop where
  place : ∀ i slot, (calls.phase i).slot? = some slot → calls.slotOf? (calls.key i) = some slot
  below : ∀ key slot, calls.slotOf? key = some slot → slot < calls.slotCount
  apart : ∀ key key' slot, calls.slotOf? key = some slot → calls.slotOf? key' = some slot →
    key = key'

omit [DecidableEq ι] in
theorem placed_start (engines : EngineTable) (request : ι → Request) :
    Placed (start engines request) where
  place := nofun
  below := nofun
  apart := nofun

theorem Placed.enter (h : Placed calls) {i : ι} {phase : Phase}
    (hp : ∀ slot, phase.slot? = some slot → calls.slotOf? (calls.key i) = some slot) :
    Placed (calls.enter i phase) where
  place := by
    intro j slot hj
    obtain ⟨rfl, he⟩ | ⟨_, he⟩ := enter_cases calls i j phase
    · exact hp slot (he ▸ hj)
    · exact h.place j slot (he ▸ hj)
  below := h.below
  apart := h.apart

omit [DecidableEq ι] in
theorem Placed.addSlot (h : Placed calls) {key : LoaderKey} (hk : calls.slotOf? key = none) :
    Placed (calls.addSlot key) where
  place := by
    intro i slot hi
    have hslot := h.place i slot hi
    have hne : calls.key i ≠ key := by
      intro e
      rw [e, hk] at hslot
      cases hslot
    exact (if_neg hne).trans hslot
  below := by
    intro k slot hs
    change (if k = key then _ else _) = some slot at hs
    change slot < calls.slotCount + 1
    split at hs
    · have := Option.some.inj hs
      omega
    · have := h.below k slot hs
      omega
  apart := by
    intro k k' slot hs hs'
    change (if k = key then _ else _) = some slot at hs
    change (if k' = key then _ else _) = some slot at hs'
    split at hs <;> split at hs'
    · simp_all
    · have := h.below k' slot hs'
      simp_all
    · have := h.below k slot hs
      simp_all
    · exact h.apart k k' slot hs hs'

theorem Placed.move (h : Placed calls) (m : Move calls next) : Placed next := by
  have hplace := h.place
  cases m with
  | find i slot hi known => exact h.enter (by simpa [Phase.slot?] using known)
  | add i hi unknown =>
    exact (h.addSlot unknown).enter (by simp [Phase.slot?, Calls.addSlot, Calls.key])
  | hit i slot l hi _ _ => exact h.enter nofun
  | miss i slot hi _ _ => exact h.enter (by simpa [Phase.slot?, hi] using hplace i)
  | number i slot hi =>
    have he : Placed (calls.enter i (.building slot ⟨calls.nextNumber⟩)) :=
      h.enter (by simpa [Phase.slot?, hi] using hplace i)
    exact ⟨he.place, he.below, he.apart⟩
  | fail i slot id e hi _ => exact h.enter nofun
  | build i slot id l hi _ =>
    have he : Placed (calls.enter i (.storing slot l)) :=
      h.enter (by simpa [Phase.slot?, hi] using hplace i)
    exact ⟨he.place, he.below, he.apart⟩
  | store i slot l hi =>
    have he : Placed (calls.enter i (.returned (.ok l))) := h.enter nofun
    exact ⟨he.place, he.below, he.apart⟩

/-- The lock of a slot has one holder at most, and the slot is empty while it has one. -/
structure Exclusive (calls : Calls ι) : Prop where
  alone : ∀ i j slot, (calls.phase i).held? = some slot → (calls.phase j).held? = some slot → i = j
  vacant : ∀ i slot, (calls.phase i).held? = some slot → calls.loader? slot = none

omit [DecidableEq ι] in
theorem exclusive_start (engines : EngineTable) (request : ι → Request) :
    Exclusive (start engines request) where
  alone := nofun
  vacant := nofun

theorem Exclusive.enter (h : Exclusive calls) {i : ι} {phase : Phase}
    (hp : ∀ slot, phase.held? = some slot → (calls.phase i).held? = some slot) :
    Exclusive (calls.enter i phase) := by
  have held : ∀ j slot, ((calls.enter i phase).phase j).held? = some slot →
      (calls.phase j).held? = some slot := by
    intro j slot hj
    obtain ⟨rfl, he⟩ | ⟨_, he⟩ := enter_cases calls i j phase
    · exact hp slot (he ▸ hj)
    · exact he ▸ hj
  constructor
  · intro j k slot hj hk
    exact h.alone j k slot (held j slot hj) (held k slot hk)
  · intro j slot hj
    exact h.vacant j slot (held j slot hj)

theorem Exclusive.miss (h : Exclusive calls) {i : ι} {slot : Nat} (free : ¬ calls.IsLocked slot)
    (empty : calls.loader? slot = none) : Exclusive (calls.enter i (.missing slot)) := by
  -- No call held the lock before, so all other holders hold other locks.
  have held : ∀ j s, ((calls.enter i (.missing slot)).phase j).held? = some s →
      j = i ∧ s = slot ∨ s ≠ slot ∧ (calls.phase j).held? = some s := by
    intro j s hj
    obtain ⟨rfl, he⟩ | ⟨_, he⟩ := enter_cases calls i j (.missing slot)
    · rw [he] at hj
      exact Or.inl ⟨rfl, (Option.some.inj hj).symm⟩
    · rw [he] at hj
      refine Or.inr ⟨?_, hj⟩
      rintro rfl
      exact free ⟨j, hj⟩
  constructor
  · intro j k s hj hk
    rcases held j s hj with ⟨rfl, hs⟩ | ⟨hs, hj⟩ <;> rcases held k s hk with ⟨rfl, hs'⟩ | ⟨hs', hk⟩
    · rfl
    · exact absurd hs hs'
    · exact absurd hs' hs
    · exact h.alone j k s hj hk
  · intro j s hj
    obtain ⟨_, rfl⟩ | ⟨_, hj⟩ := held j s hj
    · exact empty
    · exact h.vacant j s hj

theorem Exclusive.store (h : Exclusive calls) {i : ι} {slot : Nat} {l : ModuleLoader}
    (hi : calls.phase i = .storing slot l) :
    Exclusive ((calls.fill slot l).enter i (.returned (.ok l))) := by
  have held : ∀ j s, (((calls.fill slot l).enter i (.returned (.ok l))).phase j).held? = some s →
      j ≠ i ∧ (calls.phase j).held? = some s := by
    intro j s hj
    obtain ⟨rfl, he⟩ | ⟨hne, he⟩ := enter_cases (calls.fill slot l) i j (.returned (.ok l))
    · rw [he] at hj
      cases hj
    · exact ⟨hne, he ▸ hj⟩
  constructor
  · intro j k s hj hk
    exact h.alone j k s (held j s hj).2 (held k s hk).2
  · intro j s hj
    obtain ⟨hne, hbefore⟩ := held j s hj
    have hs : s ≠ slot := by
      rintro rfl
      exact hne (h.alone j i s hbefore (by rw [hi]; rfl))
    exact (if_neg hs).trans (h.vacant j s hbefore)

theorem Exclusive.move (h : Exclusive calls) (m : Move calls next) : Exclusive next := by
  cases m with
  | find i slot hi known => exact h.enter nofun
  | add i hi unknown =>
    have ha : Exclusive (calls.addSlot (calls.key i)) := by
      refine ⟨h.alone, fun j s hj => ?_⟩
      change (if s = calls.slotCount then none else calls.loader? s) = none
      split
      · rfl
      · exact h.vacant j s hj
    exact ha.enter nofun
  | hit i slot l hi _ _ => exact h.enter nofun
  | miss i slot hi free empty => exact h.miss free empty
  | number i slot hi =>
    have he : Exclusive (calls.enter i (.building slot ⟨calls.nextNumber⟩)) :=
      h.enter (by simp [hi, Phase.held?, Phase.slot?])
    exact ⟨he.alone, he.vacant⟩
  | fail i slot id e hi _ => exact h.enter nofun
  | build i slot id l hi _ =>
    have he : Exclusive (calls.enter i (.storing slot l)) :=
      h.enter (by simp [hi, Phase.held?, Phase.slot?])
    exact ⟨he.alone, he.vacant⟩
  | store i slot l hi => exact h.store hi

theorem Reachable.placed (h : Reachable calls) : Placed calls := by
  induction h with
  | start engines request => exact placed_start engines request
  | move calls next _ m ih => exact ih.move m

theorem Reachable.exclusive (h : Reachable calls) : Exclusive calls := by
  induction h with
  | start engines request => exact exclusive_start engines request
  | move calls next _ m ih => exact ih.move m

theorem Reachable.held (h : Reachable calls) (i : ι) (slot : Nat)
    (hi : (calls.phase i).held? = some slot) :
    calls.slotOf? (calls.key i) = some slot ∧ calls.loader? slot = none :=
  ⟨h.placed.place i slot (Phase.slot?_of_held? hi), h.exclusive.vacant i slot hi⟩

theorem Reachable.stored_move (h : Reachable calls) (m : Move calls next) {key : LoaderKey}
    {l : ModuleLoader} (hs : calls.Stored key l) : next.Stored key l := by
  obtain ⟨slot, hslot, hl⟩ := hs
  refine ⟨slot, m.slotOf?_eq hslot, ?_⟩
  cases m with
  | add i hi unknown =>
    have hne : slot ≠ calls.slotCount := Nat.ne_of_lt (h.placed.below key slot hslot)
    exact (if_neg hne).trans hl
  | store i s k hi =>
    have hne : slot ≠ s := by
      rintro rfl
      have hempty := (h.held i slot (by rw [hi]; rfl)).2
      rw [hempty] at hl
      cases hl
    exact (if_neg hne).trans hl
  | _ => exact hl

/-- A loader that the slot of a key has only now was stored by a call for this key. -/
theorem Reachable.stored_inv (h : Reachable calls) (m : Move calls next) {key : LoaderKey}
    {l : ModuleLoader} (hs : next.Stored key l) :
    calls.Stored key l ∨ ∃ i slot, calls.key i = key ∧ calls.phase i = .storing slot l ∧
      next.phase i = .returned (.ok l) := by
  obtain ⟨slot, hslot, hl⟩ := hs
  obtain hold | hempty := m.slotOf?_inv hslot
  · obtain hl | ⟨i, hi, hn⟩ := m.loader?_inv hl
    · exact Or.inl ⟨slot, hold, hl⟩
    · have hown := (h.held i slot (by rw [hi]; rfl)).1
      exact Or.inr ⟨i, slot, h.placed.apart _ _ slot hown hold, hi, hn⟩
  · rw [hempty] at hl
    cases hl

theorem Reachable.returned_inv (h : Reachable calls) (m : Move calls next) {i : ι}
    {l : ModuleLoader} (hn : next.phase i = .returned (.ok l)) :
    calls.phase i = .returned (.ok l) ∨ next.Stored (calls.key i) l := by
  obtain hstay | hturn := m.turn i
  · exact Or.inl (hstay.symm.trans hn)
  · rw [hn] at hturn
    generalize hphase : calls.phase i = phase at hturn
    cases hturn with
    | hit slot _ filled =>
      have hslot := h.placed.place i slot (by rw [hphase]; rfl)
      exact Or.inr (h.stored_move m ⟨slot, hslot, filled⟩)
    | store slot _ filled =>
      have hslot := (h.held i slot (by rw [hphase]; rfl)).1
      exact Or.inr ⟨slot, m.slotOf?_eq hslot, filled⟩

theorem Reachable.stored_iff (h : Reachable calls) {key : LoaderKey} {l : ModuleLoader} :
    calls.Stored key l ↔ calls.Answered key l := by
  induction h with
  | start engines request =>
    constructor
    · rintro ⟨slot, hslot, _⟩
      cases hslot
    · rintro ⟨i, _, hi⟩
      cases hi
  | move calls next hr m ih =>
    constructor
    · intro hs
      obtain hs | ⟨i, _, hkey, _, hi⟩ := hr.stored_inv m hs
      · obtain ⟨i, hkey, hi⟩ := ih.mp hs
        exact ⟨i, (m.key_eq i).trans hkey, m.returned_eq hi⟩
      · exact ⟨i, (m.key_eq i).trans hkey, hi⟩
    · rintro ⟨i, hkey, hi⟩
      rw [m.key_eq i] at hkey
      obtain hi | hs := hr.returned_inv m hi
      · exact hr.stored_move m (ih.mpr ⟨i, hkey, hi⟩)
      · exact hkey ▸ hs

open Relation (ReflTransGen)

theorem Reachable.moves (h : Reachable calls) (m : ReflTransGen Move calls later) :
    Reachable later := by
  induction m with
  | refl => exact h
  | tail _ m ih => exact ih.move _ _ m

theorem Reachable.stored_moves (h : Reachable calls) {key : LoaderKey} {l : ModuleLoader}
    (hs : calls.Stored key l) (m : ReflTransGen Move calls later) : later.Stored key l := by
  induction m with
  | refl => exact hs
  | tail ms m ih => exact (h.moves ms).stored_move m ih

theorem Reachable.look (h : Reachable calls) (m : Move calls next) {i : ι} {slot : Nat}
    (hi : calls.phase i = .waiting slot) (hn : next.phase i ≠ .waiting slot) :
    (∃ l, calls.Answered (calls.key i) l ∧ next.phase i = .returned (.ok l)) ∨
      (∀ l, ¬ calls.Answered (calls.key i) l) ∧ next.phase i = .missing slot := by
  have hslot := h.placed.place i slot (by rw [hi]; rfl)
  have hturn := (m.turn i).resolve_left fun hstay => hn (hstay.trans hi)
  rw [hi] at hturn
  generalize hphase : next.phase i = phase at hturn
  cases hturn with
  | hit _ l filled => exact Or.inl ⟨l, h.stored_iff.mp ⟨slot, hslot, filled⟩, rfl⟩
  | miss _ free empty =>
    refine Or.inr ⟨fun l hl => ?_, rfl⟩
    obtain ⟨s, hs, hl⟩ := h.stored_iff.mpr hl
    rw [hslot] at hs
    cases hs
    rw [empty] at hl
    cases hl

theorem Reachable.failed (h : Reachable calls) (m : Move calls next) {i : ι} {slot : Nat}
    {id : LoaderId} {e : Failure} (hi : calls.phase i = .building slot id)
    (hn : next.phase i = .returned (.error e)) :
    next.slotOf? (calls.key i) = some slot ∧ next.loader? slot = none ∧ ¬ next.IsLocked slot := by
  have hheld : (calls.phase i).held? = some slot := by rw [hi]; rfl
  obtain ⟨hslot, hempty⟩ := h.held i slot hheld
  refine ⟨m.slotOf?_eq hslot, ?_, ?_⟩
  · cases hl : next.loader? slot with
    | none => rfl
    | some l =>
      obtain hold | ⟨j, hj, hdone⟩ := m.loader?_inv hl
      · rw [hempty] at hold
        cases hold
      · have hij := h.exclusive.alone i j slot hheld (by rw [hj]; rfl)
        rw [hij, hdone] at hn
        cases hn
  · rintro ⟨j, hj⟩
    have hij : i ≠ j := by
      rintro rfl
      rw [hn] at hj
      cases hj
    -- A holder has held the lock before, beside `i`, or has taken it only now, when it was not free.
    obtain hstay | hturn := m.turn j
    · exact hij (h.exclusive.alone i j slot hheld (hstay ▸ hj))
    · generalize hphase : calls.phase j = phase at hturn
      generalize next.phase j = phase' at hturn hj
      cases hturn with
      | miss s free _ =>
        cases hj
        exact free ⟨i, hheld⟩
      | number s id' =>
        cases hj
        exact hij (h.exclusive.alone i j slot hheld (by rw [hphase]; rfl))
      | build s id' l _ =>
        cases hj
        exact hij (h.exclusive.alone i j slot hheld (by rw [hphase]; rfl))
      | wait s | hit s l _ | fail s id' e' _ | store s l _ => cases hj

end Calls

end FormatterModules.LoaderCache
