import FormatterModules.Engine.ImportOrder
import FormatterModules.Proofs.Ordered.Set
import Mathlib.Data.List.Permutation

namespace FormatterModules.Engine.ImportLine

/-- The imports of one name. -/
def named (n : List Char) (run : List (List Char)) : List (List Char) :=
  run.filter fun line => name line = n

/-- Ranks are compared by the group first. -/
def compareRanks (groups : ImportGroups) : List Char → List Char → Ordering :=
  compareLex (compareOn fun line => (rank groups line).1) (compareOn fun line => (rank groups line).2)

instance (groups : ImportGroups) : Std.TransCmp (compareRanks groups) :=
  inferInstanceAs (Std.TransCmp (compareLex (compareOn fun line => (rank groups line).1)
    (compareOn fun line => (rank groups line).2)))

/-- No import stands behind one that it precedes. -/
def Sorted (groups : ImportGroups) (run : List (List Char)) : Prop :=
  run.Pairwise fun a b => precedes groups a b = true

variable {groups : ImportGroups} {a b : List Char} {run other : List (List Char)}

theorem precedes_eq (groups : ImportGroups) (a b : List Char) :
    precedes groups a b = (compareRanks groups a b).isLE := by
  unfold precedes compareRanks compareLex compareOn
  cases compare (rank groups a).1 (rank groups b).1 with
  | lt => rfl
  | gt => rfl
  | eq => cases compare (rank groups a).2 (rank groups b).2 <;> rfl

theorem precedes_trans (groups : ImportGroups) (a b c : List Char)
    (hab : precedes groups a b = true) (hbc : precedes groups b c = true) :
    precedes groups a c = true := by
  rw [precedes_eq] at *
  exact Std.TransCmp.isLE_trans hab hbc

theorem precedes_total (groups : ImportGroups) (a b : List Char) :
    (precedes groups a b || precedes groups b a) = true := by
  rw [precedes_eq, precedes_eq]
  by_cases hab : (compareRanks groups a b).isLE = true
  · rw [hab, Bool.true_or]
  · rw [Std.OrientedCmp.lt_of_not_isLE hab, Ordering.isLE_lt, Bool.or_true]

theorem name_eq_of_precedes (hab : precedes groups a b = true) (hba : precedes groups b a = true) :
    name a = name b := by
  rw [precedes_eq] at hab hba
  have heq : compareRanks groups a b = .eq := Std.OrientedCmp.isLE_antisymm hab hba
  exact compareOn_eq_eq.mp (compareLex_eq_eq.mp heq).2

theorem precedes_of_name_eq (h : name a = name b) : precedes groups a b = true := by
  have hrank : rank groups a = rank groups b := by rw [rank, rank, h]
  have heq : compareRanks groups a b = .eq :=
    compareLex_eq_eq.mpr ⟨compareOn_eq_eq.mpr (congrArg Prod.fst hrank),
      compareOn_eq_eq.mpr (congrArg Prod.snd hrank)⟩
  rw [precedes_eq, heq]
  rfl

theorem precedes_of_mem_cons (h : Sorted groups (a :: run)) (hb : b ∈ a :: run) :
    precedes groups a b = true := by
  obtain rfl | hb := List.mem_cons.mp hb
  · exact precedes_of_name_eq rfl
  · exact (List.pairwise_cons.mp h).1 b hb

theorem sorted_mergeSort (groups : ImportGroups) (run : List (List Char)) :
    Sorted groups (run.mergeSort (precedes groups)) :=
  List.pairwise_mergeSort (precedes_trans groups) (precedes_total groups) run

theorem mem_named {n : List Char} : a ∈ named n run ↔ a ∈ run ∧ name a = n := by
  simp [named]

theorem named_cons (n a : List Char) (run : List (List Char)) :
    named n (a :: run) = if name a = n then a :: named n run else named n run := by
  simp [named, List.filter_cons]

/-- Imports of one name are in order, whatever their order is. -/
theorem sorted_named (groups : ImportGroups) (n : List Char) (run : List (List Char)) :
    Sorted groups (named n run) :=
  List.pairwise_of_forall_mem_list fun _ ha _ hb =>
    precedes_of_name_eq ((mem_named.mp ha).2.trans (mem_named.mp hb).2.symm)

theorem named_mergeSort (n : List Char) :
    named n (run.mergeSort (precedes groups)) = named n run := by
  have hsub : (named n run).Sublist (run.mergeSort (precedes groups)) :=
    List.sublist_mergeSort (precedes_trans groups) (precedes_total groups)
      (sorted_named groups n run) List.filter_sublist
  have hnamed := hsub.filter fun line => decide (name line = n)
  rw [named, List.filter_filter] at hnamed
  simp only [Bool.and_self] at hnamed
  exact (hnamed.eq_of_length ((List.mergeSort_perm run _).filter _).length_eq.symm).symm

theorem dropRepeated_nil : dropRepeated [] = [] := by simp [dropRepeated]

theorem dropRepeated_singleton (a : List Char) : dropRepeated [a] = [a] := by simp [dropRepeated]

theorem dropRepeated_cons_cons (a b : List Char) (rest : List (List Char)) :
    dropRepeated (a :: b :: rest) =
      if a = b then dropRepeated (a :: rest) else a :: dropRepeated (b :: rest) := by
  rw [dropRepeated]

theorem dropRepeated_sublist (run : List (List Char)) : (dropRepeated run).Sublist run := by
  fun_induction dropRepeated run with
  | case1 b rest ih => exact ih.trans (List.sublist_cons_self b (b :: rest))
  | case2 a b rest h ih => exact ih.cons_cons a
  | case3 run h => exact List.Sublist.refl run

theorem mem_dropRepeated : a ∈ dropRepeated run ↔ a ∈ run := by
  fun_induction dropRepeated run with
  | case1 b rest ih =>
    rw [ih]
    simp
  | case2 b c rest h ih => rw [List.mem_cons, ih, List.mem_cons (a := a) (b := b)]
  | case3 run h => rfl

theorem exists_dropRepeated_eq_cons (a : List Char) (run : List (List Char)) :
    ∃ rest, dropRepeated (a :: run) = a :: rest := by
  induction run with
  | nil => exact ⟨[], dropRepeated_singleton a⟩
  | cons b run ih =>
    rw [dropRepeated_cons_cons]
    split
    · exact ih
    · exact ⟨_, rfl⟩

theorem dropRepeated_dropRepeated (run : List (List Char)) :
    dropRepeated (dropRepeated run) = dropRepeated run := by
  fun_induction dropRepeated run with
  | case1 b rest ih => exact ih
  | case2 a b rest h ih =>
    obtain ⟨more, hmore⟩ := exists_dropRepeated_eq_cons b rest
    rw [hmore] at ih ⊢
    rw [dropRepeated_cons_cons, if_neg h, ih]
  | case3 run h =>
    match run, h with
    | [], _ => exact dropRepeated_nil
    | [a], _ => exact dropRepeated_singleton a
    | a :: b :: rest, h => exact absurd rfl (h a b rest)

theorem pairwise_dropRepeated_iff {R : List Char → List Char → Prop} (hR : ∀ a, R a a) :
    (dropRepeated run).Pairwise R ↔ run.Pairwise R := by
  fun_induction dropRepeated run with
  | case1 b rest ih =>
    rw [ih, List.pairwise_cons (a := b) (l := b :: rest)]
    refine ⟨fun h => ⟨List.forall_mem_cons.mpr ⟨hR b, (List.pairwise_cons.mp h).1⟩, h⟩, And.right⟩
  | case2 a b rest h ih =>
    rw [List.pairwise_cons, List.pairwise_cons, ih]
    simp only [mem_dropRepeated]
  | case3 run h => rfl

theorem isChain_dropRepeated (run : List (List Char)) :
    (dropRepeated run).IsChain (· ≠ ·) := by
  fun_induction dropRepeated run with
  | case1 b rest ih => exact ih
  | case2 a b rest h ih =>
    obtain ⟨more, hmore⟩ := exists_dropRepeated_eq_cons b rest
    rw [hmore] at ih ⊢
    exact List.isChain_cons_cons.mpr ⟨h, ih⟩
  | case3 run h =>
    match run, h with
    | [], _ => exact .nil
    | [a], _ => exact .singleton a
    | a :: b :: rest, h => exact absurd rfl (h a b rest)

/-- In a run in order, imports of one name stand together, so those that are repeated are next to each
other if and only if they are so among the imports of their name. -/
theorem named_dropRepeated (h : Sorted groups run) (n : List Char) :
    named n (dropRepeated run) = dropRepeated (named n run) := by
  fun_induction dropRepeated run with
  | case1 a rest ih =>
    rw [ih h.of_cons]
    by_cases ha : name a = n
    · simp [named_cons, ha, dropRepeated_cons_cons]
    · simp [named_cons, ha]
  | case2 a b rest hne ih =>
    obtain ⟨hall, hrest⟩ := List.pairwise_cons.mp h
    rw [named_cons, ih hrest, named_cons n a]
    split
    · next ha =>
      by_cases hb : name b = n
      · rw [named_cons, if_pos hb, dropRepeated_cons_cons, if_neg hne]
      · -- Everything behind the other name stands behind it, so nothing there has the name.
        have hnone : named n (b :: rest) = [] := by
          refine List.filter_eq_nil_iff.mpr fun c hc hname => hb ?_
          have hname : name c = n := of_decide_eq_true hname
          have hbc := precedes_of_mem_cons hrest hc
          have hcb : precedes groups c b = true :=
            precedes_trans groups c a b (precedes_of_name_eq (hname.trans ha.symm))
              (hall b List.mem_cons_self)
          exact (name_eq_of_precedes hbc hcb).trans hname
        rw [hnone, dropRepeated_nil, dropRepeated_singleton]
    · rfl
  | case3 run hshort =>
    match run, hshort with
    | [], _ => exact dropRepeated_nil.symm
    | [a], _ =>
      rw [named_cons]
      split
      · exact (dropRepeated_singleton a).symm
      · exact dropRepeated_nil.symm
    | a :: b :: rest, hshort => exact absurd rfl (hshort a b rest)

theorem mem_sortRun : a ∈ sortRun groups run ↔ a ∈ run := by
  rw [sortRun, mem_dropRepeated, List.mem_mergeSort]

theorem sortRun_nil : sortRun groups [] = [] := by
  rw [sortRun, List.mergeSort_nil, dropRepeated_nil]

theorem length_sortRun_le : (sortRun groups run).length ≤ run.length := by
  have hle := (dropRepeated_sublist (run.mergeSort (precedes groups))).length_le
  rwa [List.length_mergeSort] at hle

theorem sorted_sortRun (groups : ImportGroups) (run : List (List Char)) :
    Sorted groups (sortRun groups run) :=
  (sorted_mergeSort groups run).sublist (dropRepeated_sublist _)

/-- A run that was put in order is in order. -/
theorem sortRun_sortRun (groups : ImportGroups) (run : List (List Char)) :
    sortRun groups (sortRun groups run) = sortRun groups run := by
  rw [sortRun, List.mergeSort_of_pairwise (sorted_sortRun groups run), sortRun,
    dropRepeated_dropRepeated]

theorem named_sortRun (groups : ImportGroups) (n : List Char) (run : List (List Char)) :
    named n (sortRun groups run) = dropRepeated (named n run) := by
  rw [sortRun, named_dropRepeated (sorted_mergeSort groups run), named_mergeSort]

theorem mem_iff_of_named (h : ∀ n, named n run = named n other) : a ∈ run ↔ a ∈ other := by
  have ha : a ∈ named (name a) run ↔ a ∈ named (name a) other := by rw [h]
  simpa [mem_named] using ha

theorem eq_of_named (h : Sorted groups run) (hother : Sorted groups other)
    (hnamed : ∀ n, named n run = named n other) : run = other := by
  induction run generalizing other with
  | nil =>
    refine (List.eq_nil_iff_forall_not_mem.mpr fun a ha => ?_).symm
    exact absurd ((mem_iff_of_named hnamed).mpr ha) List.not_mem_nil
  | cons a run ih =>
    cases other with
    | nil => exact absurd ((mem_iff_of_named hnamed).mp List.mem_cons_self) List.not_mem_nil
    | cons b other =>
      have hab := precedes_of_mem_cons h ((mem_iff_of_named hnamed).mpr List.mem_cons_self)
      have hba := precedes_of_mem_cons hother ((mem_iff_of_named hnamed).mp List.mem_cons_self)
      have hname : name a = name b := name_eq_of_precedes hab hba
      -- Both are the first imports of their name.
      have hfirst := hnamed (name a)
      rw [named_cons, named_cons, if_pos rfl, if_pos hname.symm] at hfirst
      obtain ⟨rfl, -⟩ := List.cons.inj hfirst
      have hrest : ∀ n, named n run = named n other := by
        intro n
        have hn := hnamed n
        rw [named_cons, named_cons] at hn
        split at hn
        · exact (List.cons.inj hn).2
        · exact hn
      rw [ih h.of_cons hother.of_cons hrest]

theorem sortRun_eq_iff :
    sortRun groups run = sortRun groups other ↔
      ∀ n, dropRepeated (named n run) = dropRepeated (named n other) := by
  simp only [← named_sortRun groups]
  constructor
  · intro h n
    rw [h]
  · exact eq_of_named (sorted_sortRun groups run) (sorted_sortRun groups other)

theorem nodup_iff_named : run.Nodup ↔ ∀ n, (named n run).Nodup := by
  constructor
  · exact fun h n => h.filter _
  · intro h
    induction run with
    | nil => exact List.nodup_nil
    | cons a run ih =>
      have hfirst := h (name a)
      rw [named_cons, if_pos rfl, List.nodup_cons] at hfirst
      refine List.nodup_cons.mpr ⟨fun ha => hfirst.1 (mem_named.mpr ⟨ha, rfl⟩), ih fun n => ?_⟩
      have hn := h n
      rw [named_cons] at hn
      split at hn
      · exact hn.of_cons
      · exact hn

theorem nodup_sortRun_iff :
    (sortRun groups run).Nodup ↔ ∀ n, (dropRepeated (named n run)).Nodup := by
  rw [nodup_iff_named]
  simp only [named_sortRun]

/-- No two imports of the same name are different. -/
def Distinguished (run : List (List Char)) : Prop :=
  ∀ a ∈ run, ∀ b ∈ run, name a = name b → a = b

instance : DecidablePred Distinguished := fun run =>
  inferInstanceAs (Decidable (∀ a ∈ run, ∀ b ∈ run, name a = name b → a = b))

theorem dropRepeated_of_forall_eq (h : ∀ b ∈ run, b = a) :
    dropRepeated run = if run = [] then [] else [a] := by
  induction run with
  | nil => rw [dropRepeated_nil, if_pos rfl]
  | cons b run ih =>
    obtain ⟨rfl, hrest⟩ := List.forall_mem_cons.mp h
    cases run with
    | nil => simp [dropRepeated_singleton]
    | cons c run =>
      obtain ⟨rfl, -⟩ := List.forall_mem_cons.mp hrest
      rw [dropRepeated_cons_cons, if_pos rfl, ih hrest]
      simp

theorem Distinguished.dropRepeated_named (h : Distinguished run) (n : List Char) :
    dropRepeated (named n run) = (named n run).take 1 := by
  cases hn : named n run with
  | nil => exact dropRepeated_nil
  | cons a rest =>
    have ha := mem_named.mp (hn ▸ List.mem_cons_self : a ∈ named n run)
    have hsame : ∀ b ∈ named n run, b = a := fun b hb =>
      h b (mem_named.mp hb).1 a ha.1 ((mem_named.mp hb).2.trans ha.2.symm)
    rw [hn] at hsame
    rw [dropRepeated_of_forall_eq hsame]
    simp

theorem Distinguished.nodup_sortRun (h : Distinguished run) : (sortRun groups run).Nodup := by
  refine nodup_sortRun_iff.mpr fun n => ?_
  rw [h.dropRepeated_named]
  cases named n run <;> simp

theorem Distinguished.sortRun_eq (h : Distinguished run) (hsame : ∀ a, a ∈ run ↔ a ∈ other) :
    sortRun groups run = sortRun groups other := by
  have hother : Distinguished other := fun a ha b hb =>
    h a ((hsame a).mpr ha) b ((hsame b).mpr hb)
  refine sortRun_eq_iff.mpr fun n => ?_
  rw [h.dropRepeated_named, hother.dropRepeated_named]
  have hnamed : ∀ a, a ∈ named n run ↔ a ∈ named n other := fun a => by
    rw [mem_named, mem_named, hsame]
  cases hrun : named n run with
  | nil =>
    have hnone : named n other = [] :=
      List.eq_nil_iff_forall_not_mem.mpr fun a ha => by simpa [hrun] using (hnamed a).mpr ha
    rw [hnone]
  | cons a rest =>
    have ha : a ∈ named n run := by rw [hrun]; exact List.mem_cons_self
    obtain ⟨b, more, hmore⟩ := List.exists_cons_of_ne_nil (List.ne_nil_of_mem ((hnamed a).mp ha))
    have hb : b ∈ named n other := by rw [hmore]; exact List.mem_cons_self
    have hab : a = b := h a (mem_named.mp ha).1 b ((hsame b).mpr (mem_named.mp hb).1)
      ((mem_named.mp ha).2.trans (mem_named.mp hb).2.symm)
    rw [hmore, hab]
    rfl

end FormatterModules.Engine.ImportLine
