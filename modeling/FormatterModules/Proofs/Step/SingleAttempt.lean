import FormatterModules.Step.Threads
import Mathlib.Logic.Relation
import Mathlib.Logic.ExistsUnique
import Mathlib.Tactic.ByContra

namespace FormatterModules.Step

namespace Phase

/-- The call has claimed the slot and has not settled it yet. -/
def Works : Phase → Prop
  | attempting => True
  | settling _ => True
  | _ => False

@[simp] theorem works_woken (phase : Phase) : phase.woken.Works ↔ phase.Works := by
  cases phase <;> exact Iff.rfl

theorem woken_ne_asleep (phase : Phase) : phase.woken ≠ asleep := by
  cases phase <;> simp [woken]

theorem eq_of_woken_eq_returned {phase : Phase} {outcome : Attempt FormatFunction}
    (h : phase.woken = returned outcome) : phase = returned outcome := by
  cases phase <;> simp_all [woken]

end Phase

theorem look_cases (slot : Slot) :
    (slot = .claimed ∧ look slot = (.claimed, .asleep)) ∨
    (∃ f, slot = .settled (.ready f) ∧ look slot = (slot, .returned (.ok f))) ∨
    (∃ r, slot = .settled r ∧ r.function? = none ∧ look slot = (.claimed, .attempting)) := by
  cases slot with
  | claimed => exact Or.inl ⟨rfl, rfl⟩
  | settled r =>
    cases r with
    | ready f => exact Or.inr (Or.inl ⟨f, rfl, rfl⟩)
    | pending => exact Or.inr (Or.inr ⟨_, rfl, rfl, rfl⟩)
    | failed reason => exact Or.inr (Or.inr ⟨_, rfl, rfl, rfl⟩)

namespace Calls

variable {ι : Type} [DecidableEq ι] {calls next : Calls ι}

@[simp] theorem enter_self (calls : Calls ι) (i : ι) (phase : Phase) :
    calls.enter i phase i = phase := by
  simp [enter]

@[simp] theorem enter_of_ne (calls : Calls ι) {i j : ι} (h : j ≠ i) (phase : Phase) :
    calls.enter i phase j = calls.phase j := by
  simp [enter, h]

@[simp] theorem turn_slot (calls : Calls ι) (i : ι) (phase : Phase) :
    (calls.turn i phase).slot = calls.slot := rfl

@[simp] theorem turn_phase (calls : Calls ι) (i : ι) (phase : Phase) :
    (calls.turn i phase).phase = calls.enter i phase := rfl

@[simp] theorem look_slot (calls : Calls ι) (i : ι) :
    (calls.look i).slot = (Step.look calls.slot).1 := rfl

@[simp] theorem look_phase (calls : Calls ι) (i : ι) :
    (calls.look i).phase = calls.enter i (Step.look calls.slot).2 := rfl

@[simp] theorem rouse_slot (calls : Calls ι) (i : ι) : (calls.rouse i).slot = calls.slot := rfl

@[simp] theorem rouse_phase (calls : Calls ι) (i j : ι) :
    (calls.rouse i).phase j = (calls.enter i (.returned .panicked) j).woken := rfl

@[simp] theorem settle_slot (calls : Calls ι) (i : ι) (outcome : Attempt FormatFunction) :
    (calls.settle i outcome).slot = .settled (.ofAttempt outcome) := by
  cases outcome <;> rfl

theorem settle_self (calls : Calls ι) (i : ι) (outcome : Attempt FormatFunction) :
    (calls.settle i outcome).phase i =
      match outcome with
      | .panicked => .unwinding
      | outcome => .returned outcome := by
  cases outcome <;> simp [settle, Phase.woken]

theorem settle_of_ne (calls : Calls ι) {i j : ι} (hj : j ≠ i) (outcome : Attempt FormatFunction) :
    (calls.settle i outcome).phase j = calls.phase j ∨
      (calls.settle i outcome).phase j = (calls.phase j).woken := by
  cases outcome with
  | panicked => exact Or.inl (by simp [settle, hj])
  | ok f => exact Or.inr (by simp [settle, hj])
  | failed e => exact Or.inr (by simp [settle, hj])

/-- What a move does to the claim on the slot. -/
inductive ClaimChange (calls next : Calls ι) : Prop
  | kept (slot : next.slot = calls.slot)
      (works : ∀ j, (next.phase j).Works ↔ (calls.phase j).Works)
  | taken (i : ι) (r : Readiness) (free : calls.slot = .settled r) (unready : r.function? = none)
      (slot : next.slot = .claimed)
      (works : ∀ j, (next.phase j).Works ↔ (calls.phase j).Works ∨ j = i)
  | given (i : ι) (outcome : Attempt FormatFunction) (settling : calls.phase i = .settling outcome)
      (slot : next.slot = .settled (.ofAttempt outcome))
      (works : ∀ j, (next.phase j).Works ↔ (calls.phase j).Works ∧ j ≠ i)

theorem works_enter_iff {i : ι} {phase : Phase}
    (h : phase.Works ↔ (calls.phase i).Works) (j : ι) :
    (calls.enter i phase j).Works ↔ (calls.phase j).Works := by
  by_cases hj : j = i
  · subst j
    simpa using h
  · simp [hj]

theorem works_settle_iff (calls : Calls ι) (i j : ι) (outcome : Attempt FormatFunction) :
    ((calls.settle i outcome).phase j).Works ↔ (calls.phase j).Works ∧ j ≠ i := by
  by_cases hj : j = i
  · subst j
    rw [settle_self]
    cases outcome <;> simp [Phase.Works]
  · rcases settle_of_ne calls hj outcome with h | h <;> simp [h, hj]

theorem claimChange_look {i : ι} (h : calls.phase i = .entering) :
    ClaimChange calls (calls.look i) := by
  rcases look_cases calls.slot with ⟨hs, hl⟩ | ⟨f, hs, hl⟩ | ⟨r, hs, hf, hl⟩
  · exact .kept (by rw [look_slot, hl, hs]) (works_enter_iff (by simp [hl, Phase.Works, h]))
  · exact .kept (by simp [hl]) (works_enter_iff (by simp [hl, Phase.Works, h]))
  · refine .taken i r hs hf (by simp [hl]) (fun j => ?_)
    by_cases hj : j = i
    · subst j
      simp [hl, Phase.Works]
    · simp [hj]

theorem Move.claimChange (m : Move calls next) : ClaimChange calls next := by
  cases m with
  | look i h => exact claimChange_look h
  | wake i h => exact .kept rfl (works_enter_iff (by simp [Phase.Works, h]))
  | finish i outcome h => exact .kept rfl (works_enter_iff (by simp [Phase.Works, h]))
  | settle i outcome h =>
    exact .given i outcome h (settle_slot _ _ _) (fun j => works_settle_iff _ _ _ _)
  | rouse i h =>
    refine .kept rfl (fun j => ?_)
    rw [rouse_phase, Phase.works_woken]
    exact works_enter_iff (by simp [Phase.Works, h]) j

/-- The slot is claimed by one call, or by none while no call works. -/
structure Exclusive (calls : Calls ι) : Prop where
  owner : calls.slot = .claimed → ∃! i, (calls.phase i).Works
  idle : calls.slot ≠ .claimed → ∀ i, ¬ (calls.phase i).Works

omit [DecidableEq ι] in
theorem exclusive_start : Exclusive (start : Calls ι) where
  owner h := by simp [start] at h
  idle _ _ h := h

omit [DecidableEq ι] in
theorem Exclusive.claimed {i : ι} (h : Exclusive calls) (hi : (calls.phase i).Works) :
    calls.slot = .claimed := by
  by_contra hc
  exact h.idle hc i hi

omit [DecidableEq ι] in
theorem Exclusive.unique {i j : ι} (h : Exclusive calls) (hi : (calls.phase i).Works)
    (hj : (calls.phase j).Works) : i = j :=
  (h.owner (h.claimed hi)).unique hi hj

theorem Exclusive.move (h : Exclusive calls) (m : Move calls next) : Exclusive next := by
  cases m.claimChange with
  | kept slot works =>
    constructor
    · intro hs
      simpa only [works] using h.owner (slot ▸ hs)
    · intro hs i
      rw [works]
      exact h.idle (slot ▸ hs) i
  | taken i r free unready slot works =>
    have hi : ∀ j, ¬ (calls.phase j).Works := h.idle (by simp [free])
    constructor
    · intro _
      exact ⟨i, (works i).mpr (Or.inr rfl), fun j hj => ((works j).mp hj).resolve_left (hi j)⟩
    · intro hs
      exact absurd slot hs
  | given i outcome settling slot works =>
    have hi : (calls.phase i).Works := by simp [settling, Phase.Works]
    constructor
    · intro hs
      simp [slot] at hs
    · intro _ j hj
      obtain ⟨hw, hne⟩ := (works j).mp hj
      exact hne (h.unique hw hi)

theorem Reachable.exclusive (h : Reachable calls) : Exclusive calls := by
  induction h with
  | start => exact exclusive_start
  | move calls next _ m ih => exact ih.move m

theorem Exclusive.keeps_ready {f : FormatFunction} (h : Exclusive calls)
    (hs : calls.slot = .settled (.ready f)) (m : Move calls next) :
    next.slot = .settled (.ready f) := by
  cases m.claimChange with
  | kept slot _ => exact slot.trans hs
  | taken i r free unready _ _ =>
    rw [hs, Slot.settled.injEq] at free
    subst free
    cases unready
  | given i outcome settling _ _ =>
    exact absurd (by simp [settling, Phase.Works]) (h.idle (by simp [hs]) i)

theorem Move.returned {i : ι} {f : FormatFunction} (m : Move calls next)
    (hi : next.phase i = .returned (.ok f)) :
    calls.phase i = .returned (.ok f) ∨ next.slot = .settled (.ready f) := by
  cases m with
  | look j h =>
    by_cases hij : i = j
    · subst j
      simp only [look_phase, enter_self] at hi
      rcases look_cases calls.slot with ⟨_, hl⟩ | ⟨g, hs, hl⟩ | ⟨_, _, _, hl⟩ <;> simp [hl] at hi
      subst hi
      exact Or.inr (by rw [look_slot, hl]; exact hs)
    · exact Or.inl (by simpa [hij] using hi)
  | wake j h | finish j outcome h =>
    by_cases hij : i = j
    · subst j
      simp at hi
    · exact Or.inl (by simpa [hij] using hi)
  | settle j outcome h =>
    by_cases hij : i = j
    · subst j
      rw [settle_self] at hi
      right
      cases outcome <;> simp_all [Readiness.ofAttempt]
    · left
      rcases settle_of_ne calls hij outcome with he | he
      · exact he ▸ hi
      · exact Phase.eq_of_woken_eq_returned (he ▸ hi)
  | rouse j h =>
    have hr := Phase.eq_of_woken_eq_returned hi
    by_cases hij : i = j
    · subst j
      simp at hr
    · exact Or.inl (by simpa [hij] using hr)

/-- Some attempt came to this function, whether or not the slot shows it yet. -/
def Found (calls : Calls ι) (f : FormatFunction) : Prop :=
  (∃ i, calls.phase i = .settling (.ok f)) ∨ calls.slot = .settled (.ready f)

theorem Found.move {f : FormatFunction} (h : Found calls f) (e : Exclusive calls)
    (m : Move calls next) : Found next f := by
  rcases h with ⟨i, hi⟩ | hs
  · have hw : (calls.phase i).Works := by simp [hi, Phase.Works]
    cases m with
    | look j h | wake j h | finish j outcome h =>
      have hij : i ≠ j := by
        rintro rfl
        simp [h] at hi
      exact Or.inl ⟨i, by simpa [hij] using hi⟩
    | settle j outcome h =>
      have hij : i = j := e.unique hw (by simp [h, Phase.Works])
      subst j
      rw [hi, Phase.settling.injEq] at h
      subst h
      exact Or.inr (settle_slot _ _ _)
    | rouse j h =>
      have hij : i ≠ j := by
        rintro rfl
        simp [h] at hi
      exact Or.inl ⟨i, by simp [hij, hi, Phase.woken]⟩
  · exact Or.inr (e.keeps_ready hs m)

theorem Move.asleep {i : ι} (m : Move calls next) (hi : next.phase i = .asleep) :
    calls.phase i = .asleep ∨ next.slot = .claimed := by
  cases m with
  | look j h =>
    by_cases hij : i = j
    · subst j
      simp only [look_phase, enter_self] at hi
      rcases look_cases calls.slot with ⟨_, hl⟩ | ⟨_, _, hl⟩ | ⟨_, _, _, hl⟩ <;> simp [hl] at hi
      exact Or.inr (by rw [look_slot, hl])
    · exact Or.inl (by simpa [hij] using hi)
  | wake j h | finish j outcome h =>
    by_cases hij : i = j
    · subst j
      simp at hi
    · exact Or.inl (by simpa [hij] using hi)
  | settle j outcome h =>
    by_cases hij : i = j
    · subst j
      rw [settle_self] at hi
      cases outcome <;> simp at hi
    · rcases settle_of_ne calls hij outcome with he | he
      · exact Or.inl (he ▸ hi)
      · exact absurd (he ▸ hi) (Phase.woken_ne_asleep _)
  | rouse j h => exact absurd hi (Phase.woken_ne_asleep _)

open Relation (ReflTransGen)

theorem Reachable.moves (h : Reachable calls) (m : ReflTransGen Move calls next) :
    Reachable next := by
  induction m with
  | refl => exact h
  | tail _ m ih => exact ih.move _ _ m

theorem Reachable.keeps_ready {f : FormatFunction} (h : Reachable calls)
    (hs : calls.slot = .settled (.ready f)) (m : ReflTransGen Move calls next) :
    next.slot = .settled (.ready f) := by
  induction m with
  | refl => exact hs
  | tail ms m ih => exact (h.moves ms).exclusive.keeps_ready ih m

theorem prepare_moves (step : Step) (context : StepContext) (i : ι)
    (hs : calls.slot = .settled context.readiness) (hi : calls.phase i = .entering) :
    ∃ next, ReflTransGen Move calls next ∧
      next.slot = .settled (step.prepare context).2.readiness ∧
      next.phase i = .returned (step.prepare context).1 := by
  have hlook := Move.look calls i hi
  cases hf : context.readiness.function? with
  | some f =>
    refine ⟨_, .single hlook, ?_, ?_⟩ <;> simp [Step.look, prepare, hs, hf]
  | none =>
    let outcome := (step.attempt context.cache context.environment).1
    let ended : Calls ι := (calls.look i).turn i (.settling outcome)
    have hclaim : (calls.look i).phase i = .attempting := by simp [Step.look, hs, hf]
    have hfinish : Move (calls.look i) ended := .finish _ i outcome hclaim
    have hsettle : Move ended (ended.settle i outcome) := .settle _ i outcome (enter_self _ i _)
    have hmoves : ReflTransGen Move calls (ended.settle i outcome) :=
      ((ReflTransGen.single hlook).tail hfinish).tail hsettle
    have hprepare : (step.prepare context).1 = outcome := by simp [prepare, hf, outcome]
    have hready : (step.prepare context).2.readiness = .ofAttempt outcome := by
      simp [prepare, hf, outcome]
    rw [hprepare, hready]
    have hself := settle_self ended i outcome
    by_cases ho : outcome = .panicked
    · rw [ho] at hself hmoves ⊢
      exact ⟨_, hmoves.tail (.rouse _ i hself), settle_slot _ _ _, by simp [Phase.woken]⟩
    · refine ⟨_, hmoves, settle_slot _ _ _, ?_⟩
      cases hc : outcome with
      | panicked => exact absurd hc ho
      | ok f => rw [hc] at hself; exact hself
      | failed e => rw [hc] at hself; exact hself

end Calls

end FormatterModules.Step
