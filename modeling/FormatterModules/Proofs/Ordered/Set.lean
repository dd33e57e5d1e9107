import Mathlib.Data.List.Pairwise
import Mathlib.Data.List.Sort
import Mathlib.Tactic.Tauto
import FormatterModules.Ordered.Set

namespace FormatterModules

theorem compareOn_eq_eq {α β : Type} [Ord β] [Std.LawfulEqOrd β] {f : α → β} {a b : α} :
    compareOn f a b = .eq ↔ f a = f b :=
  Std.LawfulEqOrd.compare_eq_iff_eq

theorem eq_of_mem_iff_of_ascending {α : Type} (cmp : α → α → Ordering) [Std.OrientedCmp cmp]
    {xs ys : List α} (hx : xs.Pairwise fun a b => cmp a b = .lt)
    (hy : ys.Pairwise fun a b => cmp a b = .lt) (h : ∀ z, z ∈ xs ↔ z ∈ ys) : xs = ys := by
  have hirrefl : Std.Irrefl fun a b => cmp a b = .lt := by
    constructor
    intro a hlt
    have hself : cmp a a = .eq := Std.ReflCmp.compare_self
    rw [hself] at hlt
    cases hlt
  have hantisymm : Std.Antisymm fun a b => cmp a b = .lt := by
    constructor
    intro a b hab hba
    have hgt : cmp a b = .gt := Std.OrientedCmp.gt_of_lt hba
    rw [hgt] at hab
    cases hab
  exact hx.eq_of_mem_iff hy h

theorem find?_eq_some_iff_least {α : Type} (cmp : α → α → Ordering) [Std.TransCmp cmp]
    {p : α → Bool} {xs : List α} (h : xs.Pairwise fun a b => cmp a b = .lt) {x : α} :
    xs.find? p = some x ↔ x ∈ xs ∧ p x = true ∧ ∀ y ∈ xs, p y = true → (cmp x y).isLE = true := by
  rw [List.find?_eq_some_iff_append]
  constructor
  · rintro ⟨hx, before, after, rfl, hbefore⟩
    refine ⟨by simp, hx, fun y hy hpy => ?_⟩
    obtain ⟨-, hupper, -⟩ := List.pairwise_append.mp h
    obtain hy | hy := List.mem_append.mp hy
    · exact absurd hpy (by simpa using hbefore y hy)
    · obtain rfl | hy := List.mem_cons.mp hy
      · exact Std.ReflCmp.isLE_rfl
      · rw [(List.pairwise_cons.mp hupper).1 y hy]
        rfl
  · rintro ⟨hmem, hx, hleast⟩
    obtain ⟨before, after, rfl⟩ := List.append_of_mem hmem
    refine ⟨hx, before, after, rfl, fun y hy => ?_⟩
    have hlt : cmp y x = .lt := (List.pairwise_append.mp h).2.2 y hy x List.mem_cons_self
    cases hpy : p y with
    | false => rfl
    | true =>
      have hle := hleast y (List.mem_append_left _ hy) hpy
      rw [Std.OrientedCmp.gt_of_lt hlt] at hle
      cases hle

variable {α : Type} [Ord α]

namespace Ascending

theorem insert_eq_cons {x : α} {xs : List α} (h : Ascending (x :: xs)) :
    insert x xs = x :: xs := by
  cases xs with
  | nil => rfl
  | cons y ys =>
    have hlt : compare x y = .lt := (List.pairwise_cons.mp h).1 y (by simp)
    rw [insert, hlt]

/-- As long as only the element itself compares equal to it, it is in the list afterwards. -/
theorem mem_insert_iff {x z : α} {xs : List α} (h : ∀ y ∈ xs, compare x y = .eq → x = y) :
    z ∈ insert x xs ↔ z = x ∨ z ∈ xs := by
  induction xs with
  | nil => simp [insert]
  | cons y ys ih =>
    obtain ⟨hy, hys⟩ := List.forall_mem_cons.mp h
    unfold insert
    split
    · exact List.mem_cons
    · next heq =>
      rw [hy heq, List.mem_cons]
      simp
    · rw [List.mem_cons, ih hys, List.mem_cons]
      exact or_left_comm

theorem mem_before_iff [Std.TransOrd α] {x y : α} {before after : List α}
    (h : Ascending (before ++ x :: after)) (hy : y ∈ before ++ x :: after) :
    y ∈ before ↔ compare y x = .lt := by
  obtain ⟨-, hupper, hcross⟩ := List.pairwise_append.mp h
  constructor
  · exact fun hbefore => hcross y hbefore x List.mem_cons_self
  · intro hlt
    obtain hbefore | hy := List.mem_append.mp hy
    · exact hbefore
    · obtain rfl | hafter := List.mem_cons.mp hy
      · simp at hlt
      · have hgt := Std.OrientedCmp.gt_of_lt ((List.pairwise_cons.mp hupper).1 y hafter)
        simp [hgt] at hlt

section Find

variable {x y z : α} {xs : List α}

theorem find?_eq_none_of_ne (h : ∀ y ∈ xs, compare y z ≠ .eq) :
    xs.find? (fun y => compare y z == .eq) = none := by
  rw [List.find?_eq_none]
  intro y hy
  simp [h y hy]

variable [Std.TransOrd α]

theorem eq_of_compare_eq (h : Ascending xs) (hx : x ∈ xs) (hy : y ∈ xs)
    (heq : compare x y = .eq) : x = y := by
  by_contra hne
  have hapart : xs.Pairwise fun a b => compare a b ≠ .eq :=
    h.imp fun hlt heq => by simp [hlt] at heq
  have hsymm : Std.Symm fun a b : α => compare a b ≠ .eq :=
    ⟨fun a b hab hba => hab (Std.OrientedCmp.eq_symm hba)⟩
  exact hapart.forall hx hy hne heq

theorem find?_eq_some_iff (h : Ascending xs) :
    xs.find? (fun y => compare y z == .eq) = some x ↔ x ∈ xs ∧ compare x z = .eq := by
  constructor
  · intro hfound
    exact ⟨List.mem_of_find?_eq_some hfound, by simpa using List.find?_some hfound⟩
  · rintro ⟨hx, hxz⟩
    have hsome : (xs.find? fun y => compare y z == .eq).isSome = true :=
      List.find?_isSome.mpr ⟨x, hx, by simp [hxz]⟩
    obtain ⟨y, hy⟩ := Option.isSome_iff_exists.mp hsome
    have hyz : compare y z = .eq := by simpa using List.find?_some hy
    have hxy : compare x y = .eq := Std.TransCmp.eq_trans hxz (Std.OrientedCmp.eq_symm hyz)
    rw [hy, h.eq_of_compare_eq hx (List.mem_of_find?_eq_some hy) hxy]

theorem find?_append_cons {below above : List α} (h : Ascending (below ++ x :: above)) :
    (below ++ x :: above).find? (fun y => compare y z == .eq) =
      match compare x z with
      | .lt => above.find? fun y => compare y z == .eq
      | .eq => some x
      | .gt => below.find? fun y => compare y z == .eq := by
  obtain ⟨-, hupper, hcross⟩ := List.pairwise_append.mp h
  have hbelow : (compare x z).isLE = true → below.find? (fun y => compare y z == .eq) = none := by
    intro hle
    apply find?_eq_none_of_ne
    intro y hy heq
    have hlt := Std.TransCmp.lt_of_lt_of_isLE (hcross y hy x List.mem_cons_self) hle
    simp [hlt] at heq
  rw [List.find?_append]
  cases hxz : compare x z with
  | lt => rw [hbelow (by simp [hxz]), List.find?_cons_of_neg (by simp [hxz]), Option.none_or]
  | eq => rw [hbelow (by simp [hxz]), List.find?_cons_of_pos (by simp [hxz]), Option.none_or]
  | gt =>
    have habove : above.find? (fun y => compare y z == .eq) = none := by
      apply find?_eq_none_of_ne
      intro y hy heq
      have hzx : compare z x = .lt := Std.OrientedCmp.lt_of_gt hxz
      have hlt := Std.TransCmp.lt_trans hzx ((List.pairwise_cons.mp hupper).1 y hy)
      simp [Std.OrientedCmp.gt_of_lt hlt] at heq
    rw [List.find?_cons_of_neg (by simp [hxz]), habove, Option.or_none]

/-- What is found after an element was inserted: what was found before, or else the element. -/
theorem find?_insert (h : Ascending xs) :
    (insert x xs).find? (fun y => compare y z == .eq) =
      (xs.find? fun y => compare y z == .eq).or (if compare x z = .eq then some x else none) := by
  induction xs with
  | nil =>
    by_cases hxz : compare x z = .eq <;> simp [insert, hxz]
  | cons y ys ih =>
    obtain ⟨hy, hys⟩ := List.pairwise_cons.mp h
    unfold insert
    split
    · next hlt =>
      by_cases hxz : compare x z = .eq
      · have hnone : (y :: ys).find? (fun y => compare y z == .eq) = none := by
          apply find?_eq_none_of_ne
          intro w hw hwz
          have hxw : compare x w = .lt := by
            obtain rfl | hw := List.mem_cons.mp hw
            · exact hlt
            · exact Std.TransCmp.lt_trans hlt (hy w hw)
          have hsame : compare x w = .eq := Std.TransCmp.eq_trans hxz (Std.OrientedCmp.eq_symm hwz)
          rw [hsame] at hxw
          cases hxw
        rw [hnone, List.find?_cons_of_pos (by simp [hxz]), if_pos hxz, Option.none_or]
      · rw [List.find?_cons_of_neg (by simp [hxz]), if_neg hxz, Option.or_none]
    · next heq =>
      by_cases hxz : compare x z = .eq
      · have hyz : compare y z = .eq := Std.TransCmp.eq_trans (Std.OrientedCmp.eq_symm heq) hxz
        rw [List.find?_cons_of_pos (by simp [hyz]), Option.some_or]
      · rw [if_neg hxz, Option.or_none]
    · by_cases hyz : compare y z = .eq
      · rw [List.find?_cons_of_pos (by simp [hyz]), List.find?_cons_of_pos (by simp [hyz]),
          Option.some_or]
      · rw [List.find?_cons_of_neg (by simp [hyz]), List.find?_cons_of_neg (by simp [hyz]), ih hys]

theorem foldl_insert (xs : List α) {sorted : List α} (h : Ascending sorted) :
    Ascending (xs.foldl (fun sorted x => insert x sorted) sorted) := by
  induction xs generalizing sorted with
  | nil => exact h
  | cons x xs ih => exact ih (insert_ascending h)

/-- An element is found as it was there before, or else as it is listed first. -/
theorem find?_foldl_insert (z : α) (xs : List α) {sorted : List α} (h : Ascending sorted) :
    (xs.foldl (fun sorted x => insert x sorted) sorted).find? (fun y => compare y z == .eq) =
      (sorted.find? fun y => compare y z == .eq).or (xs.find? fun y => compare y z == .eq) := by
  induction xs generalizing sorted with
  | nil => simp
  | cons x xs ih =>
    rw [List.foldl_cons, ih (insert_ascending h), find?_insert h, Option.or_assoc]
    by_cases hxz : compare x z = .eq <;> simp [hxz]

end Find
end Ascending

namespace OrderedSet

theorem contains_iff [Std.LawfulEqOrd α] {s : OrderedSet α} {x : α} :
    s.contains x = true ↔ x ∈ s.toList := by
  simp [contains]

theorem ext_mem [Std.OrientedOrd α] {s t : OrderedSet α} (h : ∀ x, x ∈ s.toList ↔ x ∈ t.toList) :
    s = t :=
  ext (eq_of_mem_iff_of_ascending compare s.ascending t.ascending h)

variable [Std.TransOrd α]

theorem toList_ofList {xs : List α} (h : Ascending xs) : (ofList xs).toList = xs := by
  induction xs with
  | nil => rfl
  | cons x xs ih =>
    have htail : Ascending xs := (List.pairwise_cons.mp h).2
    change Ascending.insert x (ofList xs).toList = x :: xs
    rw [ih htail]
    exact Ascending.insert_eq_cons h

theorem mem_insert_iff {s : OrderedSet α} {x z : α}
    (h : ∀ y ∈ s.toList, compare x y = .eq → x = y) :
    z ∈ (s.insert x).toList ↔ z = x ∨ z ∈ s.toList :=
  Ascending.mem_insert_iff h

theorem mem_foldl_insert_iff {s : OrderedSet α} {xs : List α} {z : α}
    (h : ∀ x ∈ xs, ∀ y, y ∈ s.toList ∨ y ∈ xs → compare x y = .eq → x = y) :
    z ∈ (xs.foldl insert s).toList ↔ z ∈ s.toList ∨ z ∈ xs := by
  induction xs generalizing s with
  | nil => simp
  | cons x xs ih =>
    obtain ⟨hx, hxs⟩ := List.forall_mem_cons.mp h
    have hinsert : ∀ z, z ∈ (s.insert x).toList ↔ z = x ∨ z ∈ s.toList :=
      fun z => mem_insert_iff fun y hy => hx y (.inl hy)
    rw [List.foldl_cons, ih, hinsert, List.mem_cons]
    · tauto
    · intro x' hx' y hy
      refine hxs x' hx' y ?_
      rw [hinsert] at hy
      rw [List.mem_cons]
      tauto

theorem mem_union_iff {s t : OrderedSet α} {z : α}
    (h : ∀ x ∈ t.toList, ∀ y, y ∈ s.toList ∨ y ∈ t.toList → compare x y = .eq → x = y) :
    z ∈ (s.union t).toList ↔ z ∈ s.toList ∨ z ∈ t.toList :=
  mem_foldl_insert_iff h

theorem mem_ofList_iff [Std.LawfulEqOrd α] {xs : List α} {z : α} :
    z ∈ (ofList xs).toList ↔ z ∈ xs := by
  induction xs with
  | nil => simp [ofList, empty]
  | cons x xs ih =>
    change z ∈ ((ofList xs).insert x).toList ↔ _
    rw [mem_insert_iff fun y _ heq => Std.LawfulEqOrd.eq_of_compare heq, ih, List.mem_cons]

theorem isEmpty_ofList [Std.LawfulEqOrd α] {xs : List α} (h : xs ≠ []) :
    (ofList xs).isEmpty = false := by
  obtain ⟨x, hx⟩ := List.exists_mem_of_ne_nil xs h
  exact List.isEmpty_eq_false_iff.mpr (List.ne_nil_of_mem (mem_ofList_iff.mpr hx))

end OrderedSet

end FormatterModules
