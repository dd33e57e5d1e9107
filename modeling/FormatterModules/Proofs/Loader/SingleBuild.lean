import FormatterModules.Proofs.Loader.Contents
import FormatterModules.Proofs.Loader.Slots
import Mathlib.Data.Set.Card

namespace FormatterModules.LoaderCache

def Phase.number? : Phase → Option LoaderId
  | .building _ id => some id
  | .storing _ l => some l.id
  | _ => none

def Phase.Constructs (make : LoaderId → Except Failure ModuleLoader) : Phase → Prop
  | .missing _ => True
  | .building _ _ => True
  | .storing _ l => ∃ id, make id = .ok l
  | .returned result => ∃ id, make id = result
  | _ => False

namespace Calls

variable {ι : Type}

def Built (calls : Calls ι) (key : LoaderKey) (l : ModuleLoader) : Prop :=
  calls.Stored key l ∨ ∃ i slot, calls.key i = key ∧ calls.phase i = .storing slot l

def Owned (calls : Calls ι) (slot : Nat) (id : LoaderId) : Prop :=
  (∃ l, calls.loader? slot = some l ∧ l.id = id) ∨
    ∃ i, (calls.phase i).held? = some slot ∧ (calls.phase i).number? = some id

/-- No call is under way. -/
def Idle (calls : Calls ι) : Prop :=
  ∀ i, calls.phase i = .entering ∨ ∃ result, calls.phase i = .returned result

def Builds (calls next : Calls ι) (l : ModuleLoader) : Prop :=
  ∃ i slot id, calls.phase i = .building slot id ∧ next.phase i = .storing slot l

theorem id_key_of_made {calls : Calls ι} {i : ι} {id : LoaderId} {l : ModuleLoader}
    (h : calls.made i id = .ok l) : l.id = id ∧ l.key = calls.key i :=
  ModuleLoader.key_ofArtifacts h

variable [DecidableEq ι] {calls next later last : Calls ι}

theorem Move.storing_inv (m : Move calls next) {i : ι} {slot : Nat} {l : ModuleLoader}
    (h : next.phase i = .storing slot l) :
    calls.phase i = .storing slot l ∨
      ∃ id, calls.phase i = .building slot id ∧ calls.made i id = .ok l := by
  obtain hstay | hturn := m.turn i
  · exact Or.inl (hstay.symm.trans h)
  · rw [h] at hturn
    generalize hphase : calls.phase i = phase at hturn
    cases hturn with
    | build _ id _ built => exact Or.inr ⟨id, rfl, built⟩

theorem Move.builds (m : Move calls next) {l : ModuleLoader} (h : Builds calls next l) :
    ∃ i slot, calls.phase i = .building slot l.id ∧ calls.key i = l.key ∧
      next.Built (calls.key i) l := by
  obtain ⟨i, slot, id, hi, hn⟩ := h
  obtain hsame | ⟨id', hi', made⟩ := m.storing_inv hn
  · rw [hi] at hsame
    cases hsame
  · obtain ⟨hid, hkey⟩ := id_key_of_made made
    exact ⟨i, slot, hid ▸ hi', hkey.symm, Or.inr ⟨i, slot, m.key_eq i, hn⟩⟩

theorem Reachable.built_move (h : Reachable calls) (m : Move calls next) {key : LoaderKey}
    {l : ModuleLoader} (hb : calls.Built key l) : next.Built key l := by
  obtain hs | ⟨i, slot, hkey, hi⟩ := hb
  · exact Or.inl (h.stored_move m hs)
  · have hslot := m.slotOf?_eq (h.held i slot (by rw [hi]; rfl)).1
    obtain hstay | hturn := m.turn i
    · exact Or.inr ⟨i, slot, (m.key_eq i).trans hkey, hstay.trans hi⟩
    · rw [hi] at hturn
      generalize next.phase i = phase at hturn
      cases hturn with
      | store _ _ filled => exact Or.inl ⟨slot, hkey ▸ hslot, filled⟩

theorem Reachable.built_moves (h : Reachable calls) {key : LoaderKey} {l : ModuleLoader}
    (hb : calls.Built key l) (m : Relation.ReflTransGen Move calls later) : later.Built key l := by
  induction m with
  | refl => exact hb
  | tail ms m ih => exact (h.moves ms).built_move m ih

theorem Reachable.built_inv (h : Reachable calls) (m : Move calls next) {key : LoaderKey}
    {l : ModuleLoader} (hb : next.Built key l) :
    calls.Built key l ∨ ∃ i slot id, calls.key i = key ∧ calls.phase i = .building slot id ∧
      calls.made i id = .ok l ∧ next.phase i = .storing slot l := by
  obtain hs | ⟨i, slot, hkey, hn⟩ := hb
  · obtain hs | ⟨i, slot, hkey, hi, _⟩ := h.stored_inv m hs
    · exact Or.inl (Or.inl hs)
    · exact Or.inl (Or.inr ⟨i, slot, hkey, hi⟩)
  · rw [m.key_eq i] at hkey
    obtain hi | ⟨id, hi, made⟩ := m.storing_inv hn
    · exact Or.inl (Or.inr ⟨i, slot, hkey, hi⟩)
    · exact Or.inr ⟨i, slot, id, hkey, hi, made, hn⟩

theorem Reachable.key_of_built (h : Reachable calls) {key : LoaderKey} {l : ModuleLoader}
    (hb : calls.Built key l) : l.key = key := by
  induction h generalizing key l with
  | start engines request =>
    obtain ⟨slot, hslot, _⟩ | ⟨i, slot, _, hi⟩ := hb
    · cases hslot
    · cases hi
  | move calls next hr m ih =>
    obtain hold | ⟨i, slot, id, hkey, _, made, _⟩ := hr.built_inv m hb
    · exact ih hold
    · exact (id_key_of_made made).2.trans hkey

/-- Numbers in use lie below the next one, and each belongs to one slot. -/
structure Numbered (calls : Calls ι) : Prop where
  below : ∀ slot id, calls.Owned slot id → id.number < calls.nextNumber
  single : ∀ slot slot' id, calls.Owned slot id → calls.Owned slot' id → slot = slot'

omit [DecidableEq ι] in
theorem numbered_start (engines : EngineTable) (request : ι → Request) :
    Numbered (start engines request) := by
  have hnone : ∀ slot id, ¬ (start engines request).Owned slot id := by
    rintro slot id (⟨l, hl, _⟩ | ⟨i, hi, _⟩)
    · cases hl
    · cases hi
  exact ⟨fun slot id h => absurd h (hnone slot id), fun slot _ id h => absurd h (hnone slot id)⟩

/-- What a move does to the numbers. -/
inductive NumberChange (calls next : Calls ι) : Prop
  | kept (number : next.nextNumber = calls.nextNumber)
      (owned : ∀ slot id, next.Owned slot id → calls.Owned slot id)
  | taken (slot : Nat) (number : next.nextNumber = calls.nextNumber + 1)
      (owned : ∀ s id, next.Owned s id → calls.Owned s id ∨ s = slot ∧ id = ⟨calls.nextNumber⟩)

theorem owned_enter {i : ι} {phase : Phase} {slot : Nat} {id : LoaderId}
    (h : (calls.enter i phase).Owned slot id) :
    calls.Owned slot id ∨ phase.held? = some slot ∧ phase.number? = some id := by
  obtain hl | ⟨j, hheld, hnumber⟩ := h
  · exact Or.inl (Or.inl hl)
  · obtain ⟨rfl, he⟩ | ⟨_, he⟩ := enter_cases calls i j phase
    · exact Or.inr ⟨he ▸ hheld, he ▸ hnumber⟩
    · exact Or.inl (Or.inr ⟨j, he ▸ hheld, he ▸ hnumber⟩)

theorem Move.numberChange (m : Move calls next) : NumberChange calls next := by
  cases m with
  | find i slot hi known | hit i slot l hi free filled | miss i slot hi free empty
  | fail i slot id e hi failed =>
    exact .kept rfl fun s n h => (owned_enter h).resolve_right nofun
  | add i hi unknown =>
    refine .kept rfl fun s n h => ?_
    obtain ⟨l, hl, hid⟩ | hheld := (owned_enter h).resolve_right nofun
    · change (if s = calls.slotCount then none else _) = some l at hl
      split at hl
      · cases hl
      · exact Or.inl ⟨l, hl, hid⟩
    · exact Or.inr hheld
  | number i slot hi =>
    refine .taken slot rfl fun s n h => ?_
    obtain hold | ⟨hs, hn⟩ := owned_enter h
    · exact Or.inl hold
    · exact Or.inr ⟨(Option.some.inj hs).symm, (Option.some.inj hn).symm⟩
  | build i slot id l hi built =>
    refine .kept rfl fun s n h => ?_
    obtain hold | ⟨hs, hn⟩ := owned_enter h
    · exact hold
    · cases hs
      cases hn
      rw [(id_key_of_made built).1]
      exact Or.inr ⟨i, by rw [hi]; rfl, by rw [hi]; rfl⟩
  | store i slot l hi =>
    refine .kept rfl fun s n h => ?_
    obtain ⟨k, hk, hid⟩ | hheld := (owned_enter h).resolve_right nofun
    · change (if s = slot then some l else _) = some k at hk
      split at hk
      next hs =>
        obtain rfl := Option.some.inj hk
        exact Or.inr ⟨i, by rw [hi, hs]; rfl, by rw [hi, ← hid]; rfl⟩
      next => exact Or.inl ⟨k, hk, hid⟩
    · exact Or.inr hheld

theorem Numbered.move (h : Numbered calls) (m : Move calls next) : Numbered next := by
  cases m.numberChange with
  | kept number owned =>
    constructor
    · intro slot id hid
      rw [number]
      exact h.below slot id (owned slot id hid)
    · intro slot slot' id hid hid'
      exact h.single slot slot' id (owned slot id hid) (owned slot' id hid')
  | taken slot number owned =>
    have hnew : ∀ s, ¬ calls.Owned s ⟨calls.nextNumber⟩ := fun s hs =>
      Nat.lt_irrefl _ (h.below s _ hs)
    constructor
    · intro s id hid
      rw [number]
      obtain hold | ⟨_, rfl⟩ := owned s id hid
      · exact Nat.lt_succ_of_lt (h.below s id hold)
      · exact Nat.lt_succ_self _
    · intro s s' id hid hid'
      rcases owned s id hid with hold | ⟨hs, rfl⟩ <;> rcases owned s' _ hid' with hold' | ⟨hs', hid⟩
      · exact h.single s s' id hold hold'
      · exact absurd (hid ▸ hold) (hnew s)
      · exact absurd hold' (hnew s')
      · exact hs.trans hs'.symm

theorem Reachable.numbered (h : Reachable calls) : Numbered calls := by
  induction h with
  | start engines request => exact numbered_start engines request
  | move calls next _ m ih => exact ih.move m

theorem Reachable.built_apart (h : Reachable calls) {key : LoaderKey} {l : ModuleLoader}
    (hb : calls.Built key l) {i : ι} {slot : Nat} {id : LoaderId}
    (hi : calls.phase i = .building slot id) : key ≠ calls.key i ∧ l.id ≠ id := by
  have hheld : (calls.phase i).held? = some slot := by rw [hi]; rfl
  obtain ⟨hslot, hempty⟩ := h.held i slot hheld
  have howned : calls.Owned slot id := Or.inr ⟨i, hheld, by rw [hi]; rfl⟩
  -- the loader belongs to the slot of its key, and this is another slot
  have hother : ∃ s, calls.slotOf? key = some s ∧ calls.Owned s l.id ∧ s ≠ slot := by
    obtain ⟨s, hs, hl⟩ | ⟨j, s, rfl, hj⟩ := hb
    · refine ⟨s, hs, Or.inl ⟨l, hl, rfl⟩, ?_⟩
      rintro rfl
      rw [hempty] at hl
      cases hl
    · have hjheld : (calls.phase j).held? = some s := by rw [hj]; rfl
      refine ⟨s, (h.held j s hjheld).1, Or.inr ⟨j, hjheld, by rw [hj]; rfl⟩, ?_⟩
      rintro rfl
      have hij := h.exclusive.alone i j s hheld hjheld
      rw [hij, hj] at hi
      cases hi
  obtain ⟨s, hs, hsowned, hne⟩ := hother
  constructor
  · rintro rfl
    rw [hslot] at hs
    exact hne (Option.some.inj hs).symm
  · rintro rfl
    exact hne (h.numbered.single s slot l.id hsowned howned)

theorem Reachable.builds_apart {k l : ModuleLoader} (h : Reachable calls) (m : Move calls next)
    (hk : Builds calls next k) (ms : Relation.ReflTransGen Move next later)
    (m' : Move later last) (hl : Builds later last l) : k.key ≠ l.key ∧ k.id ≠ l.id := by
  obtain ⟨i, _, _, hkey, hbuilt⟩ := m.builds hk
  obtain ⟨j, slot, hj, hkey', _⟩ := m'.builds hl
  have hn : Reachable next := h.move _ _ m
  rw [← hkey, ← hkey']
  exact (hn.moves ms).built_apart (hn.built_moves hbuilt ms) hj

theorem Move.size_eq (m : Move calls next) :
    (next.size = calls.size ∧ ∀ l, ¬ Builds calls next l) ∨
      next.size = calls.size + 1 ∧ ∃ i slot id l, calls.phase i = .building slot id ∧
        next.phase i = .storing slot l ∧ ∀ j, j ≠ i → next.phase j = calls.phase j := by
  cases m with
  | build i slot id l hi built =>
    exact Or.inr ⟨rfl, i, slot, id, l, hi, enter_self _ i _, fun j hj => enter_of_ne _ hj _⟩
  | find j s hj known | add j hj unknown | hit j s l hj free filled | miss j s hj free empty
  | number j s hj | fail j s id e hj failed | store j s l hj =>
    refine Or.inl ⟨rfl, ?_⟩
    rintro k ⟨i, slot, id, hi, hn⟩
    by_cases hij : i = j
    · subst j
      rw [enter_self] at hn
      cases hn
    · have hsame := (enter_of_ne _ hij _).symm.trans hn
      exact nomatch hi.symm.trans hsame

theorem Reachable.encard_built (h : Reachable calls) :
    {key | ∃ l, calls.Built key l}.encard = calls.size := by
  induction h with
  | start engines request =>
    have hnone : {key | ∃ l, (Calls.start engines request).Built key l} = ∅ := by
      ext key
      simp [Built, Stored, Calls.start]
    rw [hnone, Set.encard_empty]
    rfl
  | move calls next hr m ih =>
    obtain ⟨hsize, hnone⟩ | ⟨hsize, i, slot, id, l, hi, hn, hothers⟩ := m.size_eq
    · have hsame : {key | ∃ l, next.Built key l} = {key | ∃ l, calls.Built key l} := by
        ext key
        constructor
        · rintro ⟨l, hl⟩
          obtain hold | ⟨i, slot, id, _, hi, _, hn⟩ := hr.built_inv m hl
          · exact ⟨l, hold⟩
          · exact absurd ⟨i, slot, id, hi, hn⟩ (hnone l)
        · rintro ⟨l, hl⟩
          exact ⟨l, hr.built_move m hl⟩
      rw [hsame, ih, hsize]
    · have hone : {key | ∃ k, next.Built key k} =
          insert (calls.key i) {key | ∃ k, calls.Built key k} := by
        ext key
        constructor
        · rintro ⟨k, hk⟩
          obtain hold | ⟨j, s, id', hkey, hj, _, hnj⟩ := hr.built_inv m hk
          · exact Or.inr ⟨k, hold⟩
          · have hij : j = i := by
              by_contra hne
              have hstay := hothers j hne
              rw [hj, hnj] at hstay
              cases hstay
            exact Or.inl (hij ▸ hkey.symm)
        · rintro (rfl | ⟨k, hk⟩)
          · exact ⟨l, Or.inr ⟨i, slot, m.key_eq i, hn⟩⟩
          · exact ⟨k, hr.built_move m hk⟩
      -- The count grows by one key, since no loader was built for this one.
      have hnew : calls.key i ∉ {key | ∃ k, calls.Built key k} := by
        rintro ⟨k, hk⟩
        exact (hr.built_apart hk hi).1 rfl
      rw [hone, Set.encard_insert_of_notMem hnew, ih, hsize]
      rfl

theorem Move.constructs (m : Move calls next) {i : ι}
    (h : (calls.phase i).Constructs (calls.made i)) : (next.phase i).Constructs (next.made i) := by
  rw [m.made_eq i]
  obtain hstay | hturn := m.turn i
  · exact hstay.symm ▸ h
  · generalize calls.phase i = phase at h hturn
    generalize next.phase i = phase' at hturn
    cases hturn with
    | wait slot | hit slot l filled | miss slot free empty => cases h
    | number slot id => trivial
    | fail slot id e failed => exact ⟨id, failed⟩
    | build slot id l built => exact ⟨id, built⟩
    | store slot l filled => exact h

theorem constructs_moves {i : ι} (h : (calls.phase i).Constructs (calls.made i))
    (m : Relation.ReflTransGen Move calls later) :
    (later.phase i).Constructs (calls.made i) := by
  have hboth : later.made i = calls.made i ∧ (later.phase i).Constructs (later.made i) := by
    induction m with
    | refl => exact ⟨rfl, h⟩
    | tail _ m ih => exact ⟨(m.made_eq i).trans ih.1, m.constructs ih.2⟩
  exact hboth.1 ▸ hboth.2

theorem Reachable.encard_answered (h : Reachable calls) (hidle : calls.Idle) :
    {key | ∃ l, calls.Answered key l}.encard = calls.size := by
  have hsame : {key | ∃ l, calls.Answered key l} = {key | ∃ l, calls.Built key l} := by
    ext key
    constructor
    · rintro ⟨l, hl⟩
      exact ⟨l, Or.inl (h.stored_iff.mpr hl)⟩
    · rintro ⟨l, hs | ⟨i, slot, _, hi⟩⟩
      · exact ⟨l, h.stored_iff.mp hs⟩
      · rcases hidle i with hphase | ⟨_, hphase⟩ <;> cases hi.symm.trans hphase
  rw [hsame, h.encard_built]

end Calls

/-- The cache as its callers find it at any moment, whatever their number and their moves: calls came
to the same loader exactly if they asked for the same key; loaders that are built differ in their keys
and numbers; a loader that is stored stays; a call whose build fails leaves the slot to the next one,
which builds again; and when no call is under way, the count is that of the keys calls came to. -/
theorem one_loader_per_key {ι : Type} [DecidableEq ι] {calls : Calls ι} (h : calls.Reachable) :
    (∀ i j k l, calls.phase i = .returned (.ok k) → calls.phase j = .returned (.ok l) →
      (k = l ↔ calls.key i = calls.key j) ∧ (k.id = l.id ↔ calls.key i = calls.key j)) ∧
    (∀ i l, calls.phase i = .returned (.ok l) → l.key = calls.key i) ∧
    (∀ next k, Calls.Move calls next → Calls.Builds calls next k →
      ∀ later last l, Relation.ReflTransGen Calls.Move next later → Calls.Move later last →
        Calls.Builds later last l → k.key ≠ l.key ∧ k.id ≠ l.id) ∧
    (∀ key l, calls.Stored key l →
      ∀ later, Relation.ReflTransGen Calls.Move calls later → later.Stored key l) ∧
    (∀ next i slot id e, Calls.Move calls next → calls.phase i = .building slot id →
      next.phase i = .returned (.error e) →
      next.slotOf? (calls.key i) = some slot ∧ next.loader? slot = none ∧ ¬ next.IsLocked slot) ∧
    (∀ next i slot, Calls.Move calls next → calls.phase i = .waiting slot →
      next.phase i ≠ .waiting slot →
      (∃ l, calls.Answered (calls.key i) l ∧ next.phase i = .returned (.ok l)) ∨
        (∀ l, ¬ calls.Answered (calls.key i) l) ∧ next.phase i = .missing slot ∧
          ∀ later result, Relation.ReflTransGen Calls.Move next later →
            later.phase i = .returned result → ∃ id, calls.made i id = result) ∧
    (calls.Idle → {key | ∃ l, calls.Answered key l}.encard = calls.size) := by
  have hanswered : ∀ i l, calls.phase i = .returned (.ok l) → calls.Stored (calls.key i) l :=
    fun i l hi => h.stored_iff.mpr ⟨i, rfl, hi⟩
  have hkey : ∀ i l, calls.phase i = .returned (.ok l) → l.key = calls.key i := fun i l hi =>
    h.key_of_built (Or.inl (hanswered i l hi))
  refine ⟨?_, hkey, ?_, fun _ _ hs _ ms => h.stored_moves hs ms,
    fun _ _ _ _ _ m hi hn => h.failed m hi hn, ?_, h.encard_answered⟩
  · intro i j k l hi hj
    obtain ⟨s, hs, hk⟩ := hanswered i k hi
    obtain ⟨s', hs', hl⟩ := hanswered j l hj
    have hsame : calls.key i = calls.key j → k = l := by
      intro e
      rw [e, hs'] at hs
      cases hs
      exact Option.some.inj (hk.symm.trans hl)
    refine ⟨⟨?_, hsame⟩, ⟨?_, fun e => congrArg ModuleLoader.id (hsame e)⟩⟩
    · rintro rfl
      exact (hkey i k hi).symm.trans (hkey j k hj)
    · intro e
      have hslot := h.numbered.single s s' l.id (Or.inl ⟨k, hk, e⟩) (Or.inl ⟨l, hl, rfl⟩)
      exact h.placed.apart _ _ s' (hslot ▸ hs) hs'
  · intro next k m hk later last l ms m' hl
    exact h.builds_apart m hk ms m' hl
  · intro next i slot m hi hn
    obtain hhit | ⟨hnone, hmiss⟩ := h.look m hi hn
    · exact Or.inl hhit
    · refine Or.inr ⟨hnone, hmiss, fun later result ms hr => ?_⟩
      have hstart : (next.phase i).Constructs (next.made i) := by
        rw [hmiss]
        trivial
      have hlater := Calls.constructs_moves hstart ms
      rw [hr, m.made_eq i] at hlater
      exact hlater

def pairAndMalformed : Fin 3 → Request
  | 2 => ⟨.ofList [.ofContent ⟨"m"⟩ ""], .standard⟩
  | _ => ⟨.empty, .standard⟩

/-- What the first of them comes to. -/
def emptyLoader : ModuleLoader := ⟨⟨1⟩, .of .empty .standard, [], .empty⟩

theorem pairAndMalformed_key_ne : (pairAndMalformed 2).key ≠ .of .empty .standard := by
  intro h
  have hids : (pairAndMalformed 2).artifacts.identities = ArtifactSet.empty.identities :=
    ArtifactSet.identitySet_inj.mp (congrArg LoaderKey.artifacts h)
  cases hids

theorem pairAndMalformed_made (id : LoaderId) :
    ModuleLoader.ofArtifacts id .builtins (pairAndMalformed 2).artifacts .standard =
      .error (.parse "m" Failure.tomlDiagnostic) := by
  have hd : Manifest.decode? "" = none := by decide +kernel
  have hp : Manifest.parse "m" "" = .error (.parse "m" Failure.tomlDiagnostic) := by
    rw [Manifest.parse, hd]
  exact ModuleLoader.ofArtifacts_error (ModuleLoader.readManifests_cons_error hp)

/-- The second call waits while the first builds, and takes its loader. The third fails. -/
theorem one_loader_per_key_of_three :
    let found := (Calls.start .builtins pairAndMalformed).addSlot (.of .empty .standard)
    let waiting := (found.enter 0 (.waiting 0)).enter 1 (.waiting 0)
    let numbered := (waiting.enter 0 (.missing 0)).takeNumber.enter 0 (.building 0 ⟨1⟩)
    let counted := numbered.count.enter 0 (.storing 0 emptyLoader)
    let stored := (counted.fill 0 emptyLoader).enter 0 (.returned (.ok emptyLoader))
    let shared := stored.enter 1 (.returned (.ok emptyLoader))
    let missing := ((shared.addSlot (shared.key 2)).enter 2 (.waiting 1)).enter 2 (.missing 1)
    let building := missing.takeNumber.enter 2 (.building 1 ⟨2⟩)
    let done := building.enter 2 (.returned (.error (.parse "m" Failure.tomlDiagnostic)))
    counted.Reachable ∧ counted.phase 1 = .waiting 0 ∧ counted.IsLocked 0 ∧
      done.Reachable ∧ done.Idle ∧ ¬ done.IsLocked 1 ∧ done.loader? 1 = none ∧
      {key | ∃ l, done.Answered key l}.encard = 1 := by
  intro found waiting numbered counted stored shared missing building done
  have hw : waiting.Reachable :=
    ((Calls.Reachable.start _ _).move _ _ (.add _ 0 rfl rfl)).move _ _ (.find _ 1 0 rfl rfl)
  have hc : counted.Reachable :=
    ((hw.move _ _ (.miss _ 0 0 rfl (by unfold Calls.IsLocked; decide) rfl)).move _ _
      (.number _ 0 0 rfl)).move _ _ (.build _ 0 0 ⟨1⟩ emptyLoader rfl rfl)
  have hs : shared.Reachable :=
    (hc.move _ _ (.store _ 0 0 emptyLoader rfl)).move _ _
      (.hit _ 1 0 emptyLoader rfl (by unfold Calls.IsLocked; decide) rfl)
  have hunknown : shared.slotOf? (shared.key 2) = none := by
    change (if (pairAndMalformed 2).key = .of .empty .standard then some 0 else none) = none
    exact if_neg pairAndMalformed_key_ne
  have hb : building.Reachable :=
    ((hs.move _ _ (.add _ 2 rfl hunknown)).move _ _
      (.miss _ 2 1 rfl (by unfold Calls.IsLocked; decide) rfl)).move _ _ (.number _ 2 1 rfl)
  have hfail : Calls.Move building done := .fail _ 2 1 ⟨2⟩ _ rfl (pairAndMalformed_made ⟨2⟩)
  have hd : done.Reachable := hb.move _ _ hfail
  have hidle : done.Idle := by
    intro i
    match i with
    | 0 => exact Or.inr ⟨_, rfl⟩
    | 1 => exact Or.inr ⟨_, rfl⟩
    | 2 => exact Or.inr ⟨_, rfl⟩
  obtain ⟨_, _, _, _, hfailed, _, _⟩ := one_loader_per_key hb
  obtain ⟨_, _, _, _, _, _, hcount⟩ := one_loader_per_key hd
  obtain ⟨_, hempty, hfree⟩ := hfailed done 2 1 ⟨2⟩ _ hfail rfl rfl
  exact ⟨hc, rfl, ⟨0, rfl⟩, hd, hidle, hfree, hempty, hcount hidle⟩

end FormatterModules.LoaderCache
