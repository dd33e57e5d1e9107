import FormatterModules.Proofs.Coordinate.Template
import FormatterModules.Proofs.Text.Blank
import FormatterModules.Version.Selection

namespace FormatterModules.Version

/-- The version with zeros behind it. -/
def padded (v : Version) (zeros : Nat) : Version :=
  ⟨v.parts ++ List.replicate zeros 0, by simp [v.parts_ne_nil]⟩

/-- The text reads as the version; blanks around it do not count. -/
def Spells (s : String) (v : Version) : Prop := parse? (Text.trimmed s) = some v

def withoutZeros (parts : List UInt32) : List UInt32 := parts.rdropWhile (· == 0)

theorem significant_eq (v : Version) : v.significant = withoutZeros v.parts := rfl

theorem withoutZeros_cons (a : UInt32) (as : List UInt32) :
    withoutZeros (a :: as) =
      if a = 0 ∧ withoutZeros as = [] then [] else a :: withoutZeros as := by
  simp only [withoutZeros, List.rdropWhile, List.reverse_cons, List.dropWhile_append,
    List.reverse_eq_nil_iff]
  by_cases hzeros : as.reverse.dropWhile (· == 0) = []
  · by_cases ha : a = 0 <;> simp [hzeros, ha]
  · simp [hzeros]

theorem withoutZeros_append_replicate (parts : List UInt32) (zeros : Nat) :
    withoutZeros (parts ++ List.replicate zeros 0) = withoutZeros parts := by
  induction zeros with
  | zero => simp
  | succ zeros ih =>
    rw [List.replicate_succ', ← List.append_assoc, ← ih]
    apply List.rdropWhile_concat_pos
    rfl

theorem exists_withoutZeros_append (parts : List UInt32) :
    ∃ zeros, parts = withoutZeros parts ++ List.replicate zeros 0 := by
  have htail : parts.rtakeWhile (· == 0) =
      List.replicate (parts.rtakeWhile (· == 0)).length 0 := by
    apply List.eq_replicate_iff.mpr
    refine ⟨rfl, fun a ha => ?_⟩
    simpa using List.mem_rtakeWhile_imp ha
  refine ⟨(parts.rtakeWhile (· == 0)).length, ?_⟩
  rw [← htail]
  exact List.rdropWhile_append_rtakeWhile.symm

theorem getLast?_withoutZeros (parts : List UInt32) : (withoutZeros parts).getLast? ≠ some 0 := by
  intro h
  have hne : withoutZeros parts ≠ [] := by
    intro hnil
    simp [hnil] at h
  have hlast := List.rdropWhile_last_not (· == 0) parts hne
  rw [List.getLast?_eq_some_getLast hne, Option.some_inj] at h
  apply hlast
  rw [beq_iff_eq]
  exact h

theorem compare_nil_of_ne {bs : List UInt32} (h : bs ≠ []) : compare [] bs = .lt := by
  obtain ⟨b, bs, rfl⟩ := List.exists_cons_of_ne_nil h
  exact List.compare_nil_cons

theorem compare_zero_of_ne {b : UInt32} (h : b ≠ 0) : compare 0 b = .lt := by
  rw [Std.compare_eq_lt]
  exact UInt32.pos_iff_ne_zero.mpr h

theorem compare_nil_withoutZeros_cons (b : UInt32) (bs : List UInt32) :
    compare [] (withoutZeros (b :: bs)) = (compare 0 b).then (compare [] (withoutZeros bs)) := by
  rw [withoutZeros_cons]
  by_cases hb : b = 0
  · subst hb
    by_cases hbs : withoutZeros bs = []
    · simp [hbs]
    · simp [hbs, compare_nil_of_ne, List.compare_nil_cons]
  · simp [hb, compare_zero_of_ne, List.compare_nil_cons]

/-- The first numbers decide, and after them the rest, also where all the rest is zeros. -/
theorem compare_withoutZeros_cons (a b : UInt32) (as bs : List UInt32) :
    compare (withoutZeros (a :: as)) (withoutZeros (b :: bs)) =
      (compare a b).then (compare (withoutZeros as) (withoutZeros bs)) := by
  by_cases ha : a = 0 ∧ withoutZeros as = []
  · rw [withoutZeros_cons a, if_pos ha, compare_nil_withoutZeros_cons, ha.1, ha.2]
  · by_cases hb : b = 0 ∧ withoutZeros bs = []
    · rw [Std.OrientedOrd.eq_swap, withoutZeros_cons b, if_pos hb, compare_nil_withoutZeros_cons,
        Ordering.swap_then, ← Std.OrientedOrd.eq_swap, ← Std.OrientedOrd.eq_swap, hb.1, hb.2]
    · rw [withoutZeros_cons a, withoutZeros_cons b, if_neg ha, if_neg hb, List.compare_cons_cons]

theorem compareZeros_eq (bs : List UInt32) :
    compareZeros bs = compare (withoutZeros []) (withoutZeros bs) := by
  induction bs with
  | nil => rfl
  | cons b bs ih =>
    have h := compare_withoutZeros_cons 0 b [] bs
    rw [← ih] at h
    exact h.symm

theorem compareParts_eq (as bs : List UInt32) :
    compareParts as bs = compare (withoutZeros as) (withoutZeros bs) := by
  fun_induction compareParts as bs with
  | case1 bs => exact compareZeros_eq bs
  | case2 a as ih =>
    -- A zero alone counts as much as nothing.
    have h := compare_withoutZeros_cons a 0 as []
    rw [← ih] at h
    exact h.symm
  | case3 a as b bs ih => rw [ih, compare_withoutZeros_cons]

variable {a b c : Version}

theorem compare_eq (a b : Version) : compare a b = compare a.significant b.significant :=
  compareParts_eq a.parts b.parts

instance : Std.TransOrd Version where
  eq_swap {a b} := by
    rw [compare_eq a, compare_eq b]
    exact Std.OrientedOrd.eq_swap
  isLE_trans {a b c} hab hbc := by
    rw [compare_eq] at hab hbc ⊢
    exact Std.TransCmp.isLE_trans hab hbc

theorem beq_iff_compare : (a == b) = true ↔ compare a b = .eq := by
  change (compare a b == .eq) = true ↔ _
  exact beq_iff_eq

@[simp] theorem beq_self (v : Version) : (v == v) = true :=
  beq_iff_compare.mpr Std.ReflCmp.compare_self

theorem beq_iff_significant : (a == b) = true ↔ a.significant = b.significant := by
  rw [beq_iff_compare, compare_eq]
  exact Std.LawfulEqOrd.compare_eq_iff_eq

instance : EquivBEq Version where
  rfl := beq_self _
  symm h := beq_iff_significant.mpr (beq_iff_significant.mp h).symm
  trans h h' := beq_iff_significant.mpr
    ((beq_iff_significant.mp h).trans (beq_iff_significant.mp h'))

theorem significant_padded (v : Version) (zeros : Nat) :
    (v.padded zeros).significant = v.significant :=
  withoutZeros_append_replicate v.parts zeros

/-- Versions are equal if and only if they are the same with zeros behind them. -/
theorem beq_iff_padded : (a == b) = true ↔ ∃ m n, a.padded m = b.padded n := by
  rw [beq_iff_significant]
  constructor
  · intro h
    obtain ⟨m, hm⟩ := exists_withoutZeros_append a.parts
    obtain ⟨n, hn⟩ := exists_withoutZeros_append b.parts
    refine ⟨n, m, Version.ext ?_⟩
    change a.parts ++ List.replicate n 0 = b.parts ++ List.replicate m 0
    rw [hm, hn, ← significant_eq, ← significant_eq, h, List.append_assoc, List.append_assoc,
      List.replicate_append_replicate, List.replicate_append_replicate, Nat.add_comm]
  · rintro ⟨m, n, h⟩
    rw [← significant_padded a m, h, significant_padded]

theorem compare_padded (a b : Version) (m n : Nat) :
    compare (a.padded m) (b.padded n) = compare a b := by
  rw [compare_eq, significant_padded, significant_padded, ← compare_eq]

theorem sign_swap (o : Ordering) : sign o.swap = -sign o := by
  cases o <;> rfl

theorem compareTo_of_spells {s : String} (h : Spells s b) :
    a.compareTo (some s) = .ok (sign (compare a b)) := by
  unfold Spells at h
  simp only [compareTo, h]

theorem trimmed_render (v : Version) : Text.trimmed v.render = v.render := by
  rw [Text.trimmed, Text.trim_of_forall_not_blank, String.ofList_toList]
  exact fun c hc => Coordinate.isBlank_of_mem_render hc

theorem spells_render (v : Version) : Spells v.render v := by
  rw [Spells, trimmed_render, parse?_render]

theorem isLE_total (a b : Version) : (compare a b).isLE = true ∨ (compare b a).isLE = true := by
  rw [Std.OrientedOrd.eq_swap (a := b)]
  cases compare a b <;> simp

theorem beq_of_isLE (hab : (compare a b).isLE = true) (hba : (compare b a).isLE = true) :
    (a == b) = true := by
  rw [beq_iff_compare]
  exact Std.OrientedCmp.isLE_antisymm hab hba

/-- Versions are compared as the lists of their numbers without the zeros at the end. This order is total
up to such zeros, and asking for it from either side with the texts of the versions gives opposite
signs. -/
theorem ordered_by_significant_parts :
    (∀ a b : Version, compare a b = compare a.significant b.significant) ∧
    (∀ a : Version, (∃ zeros, a.parts = a.significant ++ List.replicate zeros 0) ∧
      a.significant.getLast? ≠ some 0) ∧
    (∀ a : Version, compare a a = .eq) ∧
    (∀ a b c : Version, (compare a b).isLE = true → (compare b c).isLE = true →
      (compare a c).isLE = true) ∧
    (∀ a b : Version, (compare a b).isLE = true ∨ (compare b a).isLE = true) ∧
    (∀ a b : Version, (compare a b).isLE = true → (compare b a).isLE = true → (a == b) = true) ∧
    (∀ (a b : Version) (m n : Nat), compare (a.padded m) (b.padded n) = compare a b) ∧
    (∀ a b : Version, (a == b) = true ↔ a.significant = b.significant) ∧
    (∀ v : Version, Spells v.render v) ∧
    ∀ (a b : Version) (s t : String), Spells s b → Spells t a →
      a.compareTo (some s) = .ok (sign (compare a b)) ∧
      b.compareTo (some t) = .ok (-sign (compare a b)) := by
  refine ⟨compare_eq, fun a => ?_, fun a => Std.ReflCmp.compare_self,
    fun a b c => Std.TransCmp.isLE_trans, isLE_total, fun a b => beq_of_isLE, compare_padded,
    fun a b => beq_iff_significant, spells_render, fun a b s t hs ht => ?_⟩
  · exact ⟨exists_withoutZeros_append a.parts, getLast?_withoutZeros a.parts⟩
  · refine ⟨compareTo_of_spells hs, ?_⟩
    rw [compareTo_of_spells ht, Std.OrientedOrd.eq_swap, sign_swap]

theorem ordered_by_significant_parts_padded :
    let a : Version := ⟨[1, 0], by simp⟩
    let b : Version := ⟨[1], by simp⟩
    let c : Version := ⟨[1, 0, 2], by simp⟩
    (a == b) = true ∧ (compare a c).isLE = true ∧ Spells " 1.00 " a ∧ Spells "1.0.2.0" (c.padded 1) ∧
      (c.padded 1).compareTo (some " 1.00 ") = .ok 1 ∧ a.compareTo (some "1.0.2.0") = .ok (-1) := by
  intro a b c
  obtain ⟨-, -, -, htrans, -, hantisymm, -, -, -, hsigns⟩ := ordered_by_significant_parts
  have ha : Spells " 1.00 " a := by rfl
  have hc : Spells "1.0.2.0" (c.padded 1) := by rfl
  have hsides := hsigns (c.padded 1) a _ _ ha hc
  exact ⟨hantisymm a b rfl rfl, htrans a b c rfl rfl, ha, hc, hsides.1, hsides.2⟩

end FormatterModules.Version
