import Mathlib.Data.List.Induction
import FormatterModules.Ordered.Map
import FormatterModules.Proofs.Ordered.Set

namespace FormatterModules

section LastValue

variable {α β γ : Type} {R : α → β → Prop} {xs : List α} {x : α} {v : β}

/-- The last element that the relation gives any value, it gives this one. -/
def LastValue (R : α → β → Prop) (xs : List α) (v : β) : Prop :=
  ∃ before x after, xs = before ++ x :: after ∧ R x v ∧ ∀ y ∈ after, ∀ w, ¬R y w

theorem not_lastValue_nil : ¬LastValue R [] v := by
  rintro ⟨before, x, after, hsplit, -⟩
  simp at hsplit

theorem lastValue_concat_iff :
    LastValue R (xs ++ [x]) v ↔ R x v ∨ (∀ w, ¬R x w) ∧ LastValue R xs v := by
  constructor
  · rintro ⟨before, y, after, hsplit, hy, hafter⟩
    cases after using List.reverseRecOn with
    | nil =>
      obtain rfl := List.singleton_inj.mp (List.append_inj' hsplit rfl).2
      exact .inl hy
    | append_singleton after z =>
      rw [← List.cons_append, ← List.append_assoc] at hsplit
      obtain ⟨rfl, hz⟩ := List.append_inj' hsplit rfl
      obtain rfl := List.singleton_inj.mp hz
      exact .inr ⟨hafter x (by simp), before, y, after, rfl, hy, fun z hz => hafter z (by simp [hz])⟩
  · rintro (hx | ⟨hx, before, y, after, rfl, hy, hafter⟩)
    · exact ⟨xs, x, [], rfl, hx, by simp⟩
    · refine ⟨before, y, after ++ [x], by simp, hy, fun z hz => ?_⟩
      obtain hz | hz := List.mem_append.mp hz
      · exact hafter z hz
      · obtain rfl := List.mem_singleton.mp hz
        exact hx

theorem lastValue_append_iff {ys : List α} : LastValue R (xs ++ ys) v ↔
    LastValue R ys v ∨ (∀ w, ¬LastValue R ys w) ∧ LastValue R xs v := by
  induction ys using List.reverseRecOn with
  | nil => simp [not_lastValue_nil]
  | append_singleton ys y ih =>
    simp only [← List.append_assoc, lastValue_concat_iff, ih]
    by_cases hy : ∀ w, ¬R y w
    · simp [hy]
    · simp only [hy, false_and, or_false]

/-- The last value in lists that are put together is the last value of the last list that has any. -/
theorem lastValue_flatMap_iff {f : γ → List α} {zs : List γ} :
    LastValue R (zs.flatMap f) v ↔ LastValue (fun z w => LastValue R (f z) w) zs v := by
  induction zs using List.reverseRecOn with
  | nil => exact iff_of_false not_lastValue_nil not_lastValue_nil
  | append_singleton zs z ih =>
    rw [List.flatMap_append, lastValue_append_iff, lastValue_concat_iff, List.flatMap_singleton, ih]

theorem lastValue_filterMap_iff {f : γ → Option α} {zs : List γ} :
    LastValue R (zs.filterMap f) v ↔ LastValue (fun z w => ∃ x, f z = some x ∧ R x w) zs v := by
  induction zs using List.reverseRecOn with
  | nil => exact iff_of_false not_lastValue_nil not_lastValue_nil
  | append_singleton zs z ih =>
    rw [List.filterMap_append, lastValue_concat_iff, ← ih]
    cases hz : f z with
    | none => simp [hz]
    | some x => simp [hz, lastValue_concat_iff]

end LastValue

variable {κ β γ : Type} [Ord κ]

namespace AscendingKeys

theorem map_values (f : β → γ) {entries : List (κ × β)} (h : AscendingKeys entries) :
    AscendingKeys (entries.map fun e => (e.1, f e.2)) := by
  unfold AscendingKeys
  rw [List.pairwise_map]
  exact h

theorem insert_map_values (f : β → γ) (k : κ) (v : β) (entries : List (κ × β)) :
    insert k (f v) (entries.map fun e => (e.1, f e.2)) =
      (insert k v entries).map fun e => (e.1, f e.2) := by
  induction entries with
  | nil => rfl
  | cons e entries ih =>
    rw [List.map_cons, insert, insert]
    cases compare k e.1 with
    | lt => rfl
    | eq => rfl
    | gt =>
      change (e.1, f e.2) :: insert k (f v) _ = (e.1, f e.2) :: _
      rw [ih]

theorem mem_keys_insert_iff [Std.LawfulEqOrd κ] {k k' : κ} {v : β} {entries : List (κ × β)} :
    k' ∈ (insert k v entries).map Prod.fst ↔ k' = k ∨ k' ∈ entries.map Prod.fst := by
  induction entries with
  | nil => simp [insert]
  | cons e entries ih =>
    unfold insert
    split
    · simp
    · next heq =>
      obtain rfl : k = e.1 := Std.LawfulEqOrd.eq_of_compare heq
      simp
    · rw [List.map_cons, List.mem_cons, ih, List.map_cons, List.mem_cons]
      exact or_left_comm

theorem find?_insert [Std.LawfulEqOrd κ] (k k' : κ) (v : β) (entries : List (κ × β)) :
    ((insert k v entries).find? fun e => compare k' e.1 == .eq).map Prod.snd =
      if compare k' k = .eq then some v
      else (entries.find? fun e => compare k' e.1 == .eq).map Prod.snd := by
  induction entries with
  | nil =>
    rw [insert]
    by_cases h : compare k' k = .eq <;> simp [h]
  | cons e entries ih =>
    unfold insert
    split
    · by_cases h : compare k' k = .eq <;> simp [h]
    · next heq =>
      obtain rfl : k = e.1 := Std.LawfulEqOrd.eq_of_compare heq
      by_cases h : compare k' e.1 = .eq <;> simp [h]
    · next hgt =>
      by_cases h : compare k' e.1 = .eq
      · have hne : compare k' k ≠ .eq := by
          intro hk
          obtain rfl := Std.LawfulEqOrd.eq_of_compare h
          obtain rfl := Std.LawfulEqOrd.eq_of_compare hk
          rw [h] at hgt
          cases hgt
        simp [h, hne]
      · simpa [h] using ih

end AscendingKeys

namespace OrderedMap

@[simp] theorem get?_empty (k : κ) : (empty : OrderedMap κ β).get? k = none := rfl

theorem get?_erase [DecidableEq κ] [Std.LawfulEqOrd κ] (m : OrderedMap κ β) (k k' : κ) :
    (m.erase k).get? k' = if k' = k then none else m.get? k' := by
  unfold get? erase
  rw [List.find?_filter]
  by_cases h : k' = k
  · subst k'
    simp
  · have hpred : (fun e : κ × β => compare k e.1 != .eq && compare k' e.1 == .eq) =
        fun e => compare k' e.1 == .eq := by
      funext e
      by_cases he : compare k' e.1 = .eq
      · obtain rfl := Std.LawfulEqOrd.eq_of_compare he
        have hk : compare k e.1 ≠ .eq := fun hk => h (Std.LawfulEqOrd.eq_of_compare hk).symm
        simp [hk]
      · simp [he]
    rw [if_neg h]
    simp only [Bool.decide_and, Bool.decide_eq_true] at hpred ⊢
    rw [hpred]

/-- The map with every value changed. -/
def mapValues (f : β → γ) (m : OrderedMap κ β) : OrderedMap κ γ :=
  ⟨m.toList.map fun e => (e.1, f e.2), m.ascending.map_values f⟩

@[simp] theorem mapValues_empty (f : β → γ) : (empty : OrderedMap κ β).mapValues f = empty := rfl

@[simp] theorem get?_mapValues (f : β → γ) (m : OrderedMap κ β) (k : κ) :
    (m.mapValues f).get? k = (m.get? k).map f := by
  unfold get? mapValues
  rw [List.find?_map, Option.map_map, Option.map_map]
  rfl

@[simp] theorem contains_mapValues (f : β → γ) (m : OrderedMap κ β) (k : κ) :
    (m.mapValues f).contains k = m.contains k := by
  rw [contains, get?_mapValues, Option.isSome_map, contains]

@[simp] theorem keys_mapValues (f : β → γ) (m : OrderedMap κ β) :
    (m.mapValues f).keys = m.keys := by
  unfold keys mapValues
  rw [List.map_map]
  rfl

theorem contains_iff [Std.LawfulEqOrd κ] {m : OrderedMap κ β} {k : κ} :
    m.contains k = true ↔ k ∈ m.keys := by
  rw [contains, get?, Option.isSome_map, List.find?_isSome, keys, List.mem_map]
  refine exists_congr fun e => and_congr_right fun _ => ?_
  rw [beq_iff_eq, Std.LawfulEqOrd.compare_eq_iff_eq, eq_comm]

section Members

variable [Std.LawfulEqOrd κ]

theorem keys_nodup (m : OrderedMap κ β) : m.keys.Nodup := by
  unfold keys List.Nodup
  rw [List.pairwise_map]
  refine m.ascending.imp ?_
  intro e f hlt heq
  rw [heq, Std.ReflOrd.compare_self] at hlt
  cases hlt

theorem get?_eq_some_iff {m : OrderedMap κ β} {k : κ} {v : β} :
    m.get? k = some v ↔ (k, v) ∈ m.toList := by
  unfold get?
  rw [Option.map_eq_some_iff]
  constructor
  · rintro ⟨e, he, rfl⟩
    have hkey : compare k e.1 = .eq := by simpa using List.find?_some he
    obtain rfl := Std.LawfulEqOrd.eq_of_compare hkey
    exact List.mem_of_find?_eq_some he
  · intro hmem
    have hfound : (m.toList.find? fun e => compare k e.1 == .eq).isSome = true :=
      List.find?_isSome.mpr ⟨(k, v), hmem, by simp⟩
    obtain ⟨e, he⟩ := Option.isSome_iff_exists.mp hfound
    have hkey : compare k e.1 = .eq := by simpa using List.find?_some he
    have hsame : e = (k, v) := List.inj_on_of_nodup_map m.keys_nodup
      (List.mem_of_find?_eq_some he) hmem (Std.LawfulEqOrd.eq_of_compare hkey).symm
    exact ⟨e, he, by rw [hsame]⟩

theorem ext_get? [Std.OrientedOrd κ] {m n : OrderedMap κ β} (h : ∀ k, m.get? k = n.get? k) : m = n := by
  apply ext
  apply eq_of_mem_iff_of_ascending (compareOn Prod.fst) m.ascending n.ascending
  rintro ⟨k, v⟩
  rw [← get?_eq_some_iff, ← get?_eq_some_iff, h]

end Members

variable [Std.TransOrd κ]

theorem mapValues_insert (f : β → γ) (m : OrderedMap κ β) (k : κ) (v : β) :
    (m.insert k v).mapValues f = (m.mapValues f).insert k (f v) :=
  ext (AscendingKeys.insert_map_values f k v m.toList).symm

theorem mapValues_insertIfNew (f : β → γ) (m : OrderedMap κ β) (k : κ) (v : β) :
    (m.insertIfNew k v).mapValues f = (m.mapValues f).insertIfNew k (f v) := by
  rw [insertIfNew, insertIfNew, contains_mapValues]
  by_cases h : m.contains k
  · rw [if_pos h, if_pos h]
  · rw [if_neg h, if_neg h, mapValues_insert]

section Keys

variable [Std.LawfulEqOrd κ]

theorem get?_insert [DecidableEq κ] (m : OrderedMap κ β) (k k' : κ) (v : β) :
    (m.insert k v).get? k' = if k' = k then some v else m.get? k' := by
  refine (AscendingKeys.find?_insert k k' v m.toList).trans ?_
  simp only [Std.LawfulEqOrd.compare_eq_iff_eq]
  rfl

/-- What is found after a new value was added: what was found before, or else that value. -/
theorem get?_insertIfNew [DecidableEq κ] (m : OrderedMap κ β) (k k' : κ) (v : β) :
    (m.insertIfNew k v).get? k' = (m.get? k').or (if k' = k then some v else none) := by
  unfold insertIfNew contains
  by_cases hk : k' = k
  · subst hk
    cases h : m.get? k' <;> simp [h, get?_insert]
  · rw [if_neg hk, Option.or_none]
    split
    · rfl
    · rw [get?_insert, if_neg hk]

section Merging

variable [DecidableEq κ] {entries : List (κ × β)} {k : κ} {v : β}

theorem get?_foldl_insert (m : OrderedMap κ β) :
    (entries.foldl (fun m e => m.insert e.1 e.2) m).get? k =
      ((ofList entries).get? k).or (m.get? k) := by
  induction entries generalizing m with
  | nil => rfl
  | cons e entries ih =>
    rw [ofList, List.foldl_cons, List.foldl_cons, ih, ih (empty.insert e.1 e.2), get?_insert,
      get?_insert, Option.or_assoc]
    split <;> rfl

theorem get?_ofList_eq_some_iff :
    (ofList entries).get? k = some v ↔ LastValue (fun e w => e = (k, w)) entries v := by
  induction entries using List.reverseRecOn with
  | nil => exact iff_of_false (by simp [ofList]) not_lastValue_nil
  | append_singleton entries e ih =>
    obtain ⟨k', w⟩ := e
    rw [lastValue_concat_iff, ← ih, ofList, List.foldl_append]
    change ((ofList entries).insert k' w).get? k = some v ↔ _
    rw [get?_insert]
    by_cases hk : k = k'
    · simp [hk]
    · simp [hk, Ne.symm hk]

/-- In a list that has each key once, each key has the value it is listed with. -/
theorem get?_ofList_of_nodup {entries : List (κ × β)} (h : (entries.map Prod.fst).Nodup) {k : κ} {v : β} :
    (ofList entries).get? k = some v ↔ (k, v) ∈ entries := by
  rw [get?_ofList_eq_some_iff]
  constructor
  · rintro ⟨before, e, after, hsplit, rfl, -⟩
    simp [hsplit]
  · intro hmem
    obtain ⟨before, after, rfl⟩ := List.append_of_mem hmem
    rw [List.map_append, List.map_cons] at h
    have hafter := (List.nodup_cons.mp (List.nodup_append.mp h).2.1).1
    refine ⟨before, (k, v), after, rfl, rfl, ?_⟩
    rintro e he w rfl
    exact hafter (List.mem_map.mpr ⟨(k, w), he, rfl⟩)

/-- A map is put together from its entries in any order. -/
theorem ofList_of_perm (m : OrderedMap κ β) {entries : List (κ × β)} (h : m.toList.Perm entries) :
    ofList entries = m := by
  have hnodup : (entries.map Prod.fst).Nodup := (h.map Prod.fst).nodup m.keys_nodup
  refine ext_get? fun k => Option.ext fun v => ?_
  rw [get?_ofList_of_nodup hnodup, get?_eq_some_iff, h.mem_iff]

theorem ofList_toList (m : OrderedMap κ β) : ofList m.toList = m := m.ofList_of_perm (.refl _)

theorem get?_merge (m n : OrderedMap κ β) (k : κ) :
    (m.merge n).get? k = (n.get? k).or (m.get? k) := by
  rw [merge, get?_foldl_insert, ofList_toList]

theorem ofList_append (entries others : List (κ × β)) :
    ofList (entries ++ others) = (ofList entries).merge (ofList others) := by
  refine ext_get? fun k => ?_
  rw [get?_merge, ofList, List.foldl_append, get?_foldl_insert]
  rfl

end Merging

theorem mem_keys_insert_iff {m : OrderedMap κ β} {k k' : κ} {v : β} :
    k' ∈ (m.insert k v).keys ↔ k' = k ∨ k' ∈ m.keys :=
  AscendingKeys.mem_keys_insert_iff

theorem mem_keys_insertIfNew_iff {m : OrderedMap κ β} {k k' : κ} {v : β} :
    k' ∈ (m.insertIfNew k v).keys ↔ k' = k ∨ k' ∈ m.keys := by
  unfold insertIfNew
  split
  · next h =>
    constructor
    · exact .inr
    · rintro (rfl | h')
      · exact contains_iff.mp h
      · exact h'
  · exact mem_keys_insert_iff

end Keys

end OrderedMap

end FormatterModules
