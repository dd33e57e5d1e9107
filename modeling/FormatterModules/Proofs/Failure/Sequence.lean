import Mathlib.Data.List.Forall2
import FormatterModules.Failure
import FormatterModules.Proofs.Ordered.Set

namespace FormatterModules

namespace Failure

variable {α β : Type} {f : α → Except Failure β} {xs : List α}

theorem mapM_cons_of_error {x : α} {e : Failure} (h : f x = .error e) (xs : List α) :
    (x :: xs).mapM f = .error e := by
  rw [List.mapM_cons, h]
  rfl

theorem mapM_cons_of_ok {x : α} {y : β} (h : f x = .ok y) (xs : List α) :
    (x :: xs).mapM f = (xs.mapM f).map (y :: ·) := by
  rw [List.mapM_cons, h]
  cases xs.mapM f <;> simp [bind, Except.bind, pure, Except.pure, Except.map]

theorem mapM_eq_ok_iff {ys : List β} :
    xs.mapM f = .ok ys ↔ List.Forall₂ (fun x y => f x = .ok y) xs ys := by
  induction xs generalizing ys with
  | nil => cases ys <;> simp [pure, Except.pure]
  | cons x xs ih =>
    cases hx : f x with
    | error e =>
      rw [mapM_cons_of_error hx]
      cases ys <;> simp [hx]
    | ok y =>
      rw [mapM_cons_of_ok hx]
      cases hrest : xs.mapM f with
      | error e => cases ys <;> simp [Except.map, ← ih, hrest]
      | ok rest => cases ys <;> simp [Except.map, ← ih, hrest, hx]

theorem mem_iff_of_mapM_eq_ok {ys : List β} (h : xs.mapM f = .ok ys) {y : β} :
    y ∈ ys ↔ ∃ x ∈ xs, f x = .ok y := by
  rw [mapM_eq_ok_iff] at h
  induction h with
  | nil => simp
  | cons hx _ ih => rw [List.mem_cons, List.exists_mem_cons_iff, hx, ih, Except.ok.injEq, eq_comm]

theorem exists_mapM_eq_ok_iff :
    (∃ ys, xs.mapM f = .ok ys) ↔ ∀ x ∈ xs, ∃ y, f x = .ok y := by
  induction xs with
  | nil => simp [pure, Except.pure]
  | cons x xs ih =>
    rw [List.forall_mem_cons, ← ih]
    cases hx : f x with
    | error e =>
      rw [mapM_cons_of_error hx]
      simp
    | ok y =>
      rw [mapM_cons_of_ok hx]
      cases xs.mapM f <;> simp [Except.map]

/-- An element of a list and what stands before and behind it: this is the first element, or one of the
rest. -/
theorem exists_split_cons_iff {P : List α → α → List α → Prop} {x : α} :
    (∃ before y after, x :: xs = before ++ y :: after ∧ P before y after) ↔
      P [] x xs ∨ ∃ before y after, xs = before ++ y :: after ∧ P (x :: before) y after := by
  constructor
  · rintro ⟨before, y, after, hsplit, h⟩
    cases before with
    | nil =>
      obtain ⟨rfl, rfl⟩ := List.cons.inj hsplit
      exact .inl h
    | cons z before =>
      obtain ⟨rfl, rfl⟩ := List.cons.inj hsplit
      exact .inr ⟨before, y, after, rfl, h⟩
  · rintro (h | ⟨before, y, after, rfl, h⟩)
    · exact ⟨[], x, xs, rfl, h⟩
    · exact ⟨x :: before, y, after, rfl, h⟩

theorem mapM_eq_error_iff {e : Failure} :
    xs.mapM f = .error e ↔
      ∃ before x after, xs = before ++ x :: after ∧ f x = .error e ∧
        ∀ y ∈ before, ∃ z, f y = .ok z := by
  induction xs with
  | nil => simp [pure, Except.pure]
  | cons x xs ih =>
    rw [exists_split_cons_iff]
    cases hx : f x with
    | error e' =>
      rw [mapM_cons_of_error hx]
      simp [hx]
    | ok y =>
      rw [mapM_cons_of_ok hx]
      simp only [hx, List.forall_mem_cons, reduceCtorEq, false_and, false_or, Except.ok.injEq,
        exists_eq', true_and]
      rw [← ih]
      cases xs.mapM f <;> simp [Except.map]

theorem mapM_append_of_error {e : Failure} (h : xs.mapM f = .error e) (ys : List α) :
    (xs ++ ys).mapM f = .error e := by
  rw [List.mapM_append, h]
  rfl

theorem mapM_append_of_ok {zs : List β} (h : xs.mapM f = .ok zs) (ys : List α) :
    (xs ++ ys).mapM f = (ys.mapM f).map (zs ++ ·) := by
  rw [List.mapM_append, h]
  cases ys.mapM f <;> simp [bind, Except.bind, pure, Except.pure, Except.map]

/-- Results that are taken into account one after another can as well be collected first. -/
theorem eq_foldl_mapM {γ : Type} {g : γ → β → γ} {go : γ → List α → Except Failure γ}
    (hnil : ∀ z, go z [] = .ok z)
    (hcons : ∀ z x xs, go z (x :: xs) =
      match f x with
      | .error e => .error e
      | .ok y => go (g z y) xs) (z : γ) (xs : List α) :
    go z xs = (xs.mapM f).map fun ys => ys.foldl g z := by
  induction xs generalizing z with
  | nil => exact hnil z
  | cons x xs ih =>
    rw [hcons]
    cases hx : f x with
    | error e =>
      rw [mapM_cons_of_error hx]
      rfl
    | ok y =>
      rw [mapM_cons_of_ok hx]
      dsimp only
      rw [ih]
      cases xs.mapM f <;> rfl

theorem mapM_eq_error_iff_of_ascending [Ord α] [Std.TransOrd α] (h : Ascending xs) {e : Failure} :
    xs.mapM f = .error e ↔
      ∃ x ∈ xs, f x = .error e ∧ ∀ y ∈ xs, compare y x = .lt → ∃ z, f y = .ok z := by
  rw [mapM_eq_error_iff]
  constructor
  · rintro ⟨before, x, after, rfl, hx, hbefore⟩
    refine ⟨x, by simp, hx, fun y hy hlt => hbefore y ?_⟩
    exact (h.mem_before_iff hy).mpr hlt
  · rintro ⟨x, hmem, hx, hleast⟩
    obtain ⟨before, after, rfl⟩ := List.append_of_mem hmem
    refine ⟨before, x, after, rfl, hx, fun y hy => hleast y (by simp [hy]) ?_⟩
    exact (h.mem_before_iff (by simp [hy])).mp hy

end Failure

end FormatterModules
