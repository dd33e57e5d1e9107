import FormatterModules.Proofs.Ordered.Set
import FormatterModules.Proofs.Version.Order
import FormatterModules.Version.Supported

namespace FormatterModules

namespace Version

/-- Drops each version that is equal to the one before it. -/
def dropEqual : List Version → List Version
  | v :: w :: rest => if v == w then dropEqual (v :: rest) else v :: dropEqual (w :: rest)
  | vs => vs

def precedes (v w : Version) : Bool := (compare v w).isLE

/-- Looks for the version equal to the given one by halving the list. -/
def halvingSearch (vs : List Version) (v : Version) : Option Version :=
  match _h : vs.drop (vs.length / 2) with
  | [] => none
  | w :: above =>
    match compare w v with
    | .lt => halvingSearch above v
    | .eq => some w
    | .gt => halvingSearch (vs.take (vs.length / 2)) v
termination_by vs.length
decreasing_by
  all_goals
    have hlength := congrArg List.length _h
    simp only [List.length_drop, List.length_cons, List.length_take] at hlength ⊢
    omega

variable {v w z : Version} {vs : List Version}

theorem find?_of_drop_eq_cons {n : Nat} {above : List Version} (h : Ascending vs)
    (hdrop : vs.drop n = w :: above) (z : Version) :
    vs.find? (· == z) =
      match compare w z with
      | .lt => above.find? (· == z)
      | .eq => some w
      | .gt => (vs.take n).find? (· == z) := by
  have hsplit : vs.take n ++ w :: above = vs := by rw [← hdrop, List.take_append_drop]
  have hfind := Ascending.find?_append_cons (z := z) (hsplit.symm ▸ h)
  rw [hsplit] at hfind
  exact hfind

theorem halvingSearch_eq_find? (h : Ascending vs) (z : Version) :
    halvingSearch vs z = vs.find? (· == z) := by
  fun_induction halvingSearch vs z with
  | case1 vs hdrop =>
    have hlength := congrArg List.length hdrop
    simp only [List.length_drop, List.length_nil] at hlength
    have hnil : vs = [] := List.length_eq_zero_iff.mp (by omega)
    rw [hnil]
    rfl
  | case2 vs w above hdrop hlt ih =>
    have habove : Ascending above := by
      have hsub := h.sublist (List.drop_sublist (vs.length / 2) vs)
      rw [hdrop] at hsub
      exact (List.pairwise_cons.mp hsub).2
    rw [find?_of_drop_eq_cons h hdrop, hlt, ih habove]
  | case3 vs w above hdrop heq => rw [find?_of_drop_eq_cons h hdrop, heq]
  | case4 vs w above hdrop hgt ih =>
    rw [find?_of_drop_eq_cons h hdrop, hgt, ih (h.sublist (List.take_sublist _ vs))]

theorem dropEqual_sublist (vs : List Version) : (dropEqual vs).Sublist vs := by
  fun_induction dropEqual vs with
  | case1 v w rest h ih => exact ih.trans ((List.sublist_cons_self w rest).cons_cons v)
  | case2 v w rest h ih => exact ih.cons_cons v
  | case3 vs h => exact List.Sublist.refl vs

theorem find?_dropEqual (z : Version) (vs : List Version) :
    (dropEqual vs).find? (· == z) = vs.find? (· == z) := by
  fun_induction dropEqual vs with
  | case1 v w rest h ih =>
    rw [ih]
    cases hwz : w == z <;> simp [BEq.congr_left h, hwz]
  | case2 v w rest h ih => simp [ih, List.find?_cons]
  | case3 vs h => rfl

theorem ascending_dropEqual (h : vs.Pairwise fun v w => precedes v w = true) :
    Ascending (dropEqual vs) := by
  fun_induction dropEqual vs with
  | case1 v w rest heq ih => exact ih (h.sublist ((List.sublist_cons_self w rest).cons_cons v))
  | case2 v w rest hne ih =>
    obtain ⟨hv, hrest⟩ := List.pairwise_cons.mp h
    refine List.pairwise_cons.mpr ⟨fun u hu => ?_, ih hrest⟩
    have hvw : compare v w = .lt := by
      have hle := hv w List.mem_cons_self
      rw [beq_iff_compare] at hne
      cases hcompare : compare v w <;> simp_all [precedes]
    obtain rfl | hu := List.mem_cons.mp ((dropEqual_sublist _).subset hu)
    · exact hvw
    · exact Std.TransCmp.lt_of_lt_of_isLE hvw ((List.pairwise_cons.mp hrest).1 u hu)
  | case3 vs hvs =>
    match vs, hvs with
    | [], _ => exact List.Pairwise.nil
    | [v], _ => exact List.pairwise_singleton _ v
    | v :: w :: rest, hvs => exact absurd rfl (hvs v w rest)

theorem insertSorted_eq (v : Version) (vs : List Version) :
    v.insertSorted vs = Ascending.insert v vs := by
  induction vs with
  | nil => rfl
  | cons w vs ih =>
    cases hcompare : compare v w <;> simp [insertSorted, Ascending.insert, ih, hcompare]

theorem precedes_trans (u v w : Version) (huv : precedes u v = true) (hvw : precedes v w = true) :
    precedes u w = true :=
  Std.TransCmp.isLE_trans huv hvw

theorem precedes_total (v w : Version) : (precedes v w || precedes w v) = true := by
  simpa [precedes] using isLE_total v w

theorem filter_mergeSort (z : Version) (vs : List Version) :
    (vs.mergeSort precedes).filter (· == z) = vs.filter (· == z) := by
  have hsame : (vs.filter (· == z)).Pairwise fun v w => precedes v w = true := by
    apply List.pairwise_of_forall_mem_list
    intro v hv w hw
    have hvw : (v == w) = true :=
      BEq.trans (List.mem_filter.mp hv).2 (BEq.symm (List.mem_filter.mp hw).2)
    simp [precedes, beq_iff_compare.mp hvw]
  have hsub := (List.sublist_mergeSort precedes_trans precedes_total hsame
    List.filter_sublist).filter (· == z)
  rw [List.filter_filter] at hsub
  simp only [Bool.and_self] at hsub
  exact (hsub.eq_of_length ((List.mergeSort_perm vs _).filter _).length_eq.symm).symm

end Version

namespace SupportedVersions

open Version

variable {vs : List Version}

theorem sortDistinct_eq_foldl (vs : List Version) :
    sortDistinct vs = vs.foldl (fun sorted v => Ascending.insert v sorted) [] := by
  unfold sortDistinct
  congr
  funext sorted v
  exact insertSorted_eq v sorted

theorem ascending_sortDistinct (vs : List Version) : Ascending (sortDistinct vs) := by
  rw [sortDistinct_eq_foldl]
  exact Ascending.foldl_insert vs List.Pairwise.nil

theorem find?_sortDistinct (z : Version) (vs : List Version) :
    (sortDistinct vs).find? (· == z) = vs.find? (· == z) := by
  rw [sortDistinct_eq_foldl]
  exact Ascending.find?_foldl_insert z vs List.Pairwise.nil

theorem mem_of_mem_sortDistinct {v : Version} (h : v ∈ sortDistinct vs) : v ∈ vs := by
  have hfound : (sortDistinct vs).find? (· == v) = some v :=
    (Ascending.find?_eq_some_iff (ascending_sortDistinct vs)).mpr ⟨h, Std.ReflCmp.compare_self⟩
  rw [find?_sortDistinct] at hfound
  exact List.mem_of_find?_eq_some hfound

theorem exists_mem_sortDistinct {v : Version} (h : v ∈ vs) :
    ∃ w ∈ sortDistinct vs, (w == v) = true := by
  have hfound : (vs.find? (· == v)).isSome = true :=
    List.find?_isSome.mpr ⟨v, h, Version.beq_self v⟩
  rw [← find?_sortDistinct] at hfound
  exact List.find?_isSome.mp hfound

theorem eq_of_find?_eq {ws : List Version} (hvs : Ascending vs) (hws : Ascending ws)
    (h : ∀ z, vs.find? (· == z) = ws.find? (· == z)) : vs = ws := by
  apply eq_of_mem_iff_of_ascending compare hvs hws
  intro z
  have hmem : ∀ {us : List Version}, Ascending us →
      (z ∈ us ↔ us.find? (· == z) = some z) := by
    intro us hus
    refine Iff.trans ?_ (Ascending.find?_eq_some_iff hus).symm
    simp
  rw [hmem hvs, hmem hws, h]

/-- Inserting one version after the other is sorting them and dropping the repeated ones. -/
theorem sortDistinct_eq (vs : List Version) :
    sortDistinct vs = dropEqual (vs.mergeSort precedes) := by
  apply eq_of_find?_eq (ascending_sortDistinct vs)
  · apply ascending_dropEqual
    exact List.pairwise_mergeSort precedes_trans precedes_total vs
  · intro z
    rw [find?_sortDistinct, find?_dropEqual, ← List.head?_filter, ← List.head?_filter,
      filter_mergeSort]

section Reading

variable {raw : List String}

theorem readAll_append {before : List String} (h : before.map parse? = vs.map some)
    (after : List String) : readAll (before ++ after) = (readAll after).map (vs ++ ·) := by
  induction before generalizing vs with
  | nil =>
    obtain rfl : vs = [] := by simpa using h.symm
    rw [List.nil_append]
    cases readAll after <;> rfl
  | cons text before ih =>
    cases vs with
    | nil => simp at h
    | cons v vs =>
      rw [List.map_cons, List.map_cons, List.cons.injEq] at h
      rw [List.cons_append, readAll, h.1]
      change (readAll (before ++ after)).map (v :: ·) = _
      rw [ih h.2]
      cases readAll after <;> simp [Except.map]

theorem readAll_eq_ok (h : raw.map parse? = vs.map some) : readAll raw = .ok vs := by
  have hread := readAll_append h []
  rwa [List.append_nil, readAll, Except.map, List.append_nil] at hread

theorem readAll_eq_error {before after : List String} {text : String}
    (hbefore : before.map parse? = vs.map some) (htext : parse? text = none) :
    readAll (before ++ text :: after) =
      .error (.configuration ("Supported version '" ++ text ++ "' is malformed")) := by
  rw [readAll_append hbefore, readAll, htext]
  rfl

/-- All texts of a list are versions, or there is a first one that is malformed. -/
theorem exists_versions_or_malformed (raw : List String) :
    (∃ vs : List Version, raw.map parse? = vs.map some) ∨
    ∃ (before : List String) (text : String) (after : List String) (vs : List Version),
      raw = before ++ text :: after ∧ before.map parse? = vs.map some ∧ parse? text = none := by
  induction raw with
  | nil => exact .inl ⟨[], rfl⟩
  | cons first raw ih =>
    cases hfirst : parse? first with
    | none => exact .inr ⟨[], first, raw, [], rfl, rfl, hfirst⟩
    | some v =>
      obtain ⟨vs, hvs⟩ | ⟨before, text, after, vs, rfl, hbefore, htext⟩ := ih
      · exact .inl ⟨v :: vs, by simp [hfirst, hvs]⟩
      · exact .inr ⟨first :: before, text, after, v :: vs, rfl, by simp [hfirst, hbefore], htext⟩

theorem exists_ofList_eq_ok (h : raw.map parse? = vs.map some) (hne : vs ≠ []) :
    ∃ s, ofList raw = .ok s ∧ s.versions = sortDistinct vs := by
  obtain ⟨v, vs, rfl⟩ := List.exists_cons_of_ne_nil hne
  unfold ofList
  rw [readAll_eq_ok h]
  exact ⟨_, rfl, rfl⟩

theorem ofList_nil :
    ofList [] = .error (.configuration "At least one supported version is required") := rfl

theorem ofList_eq_error {before after : List String} {text : String}
    (hbefore : before.map parse? = vs.map some) (htext : parse? text = none) :
    ofList (before ++ text :: after) =
      .error (.configuration ("Supported version '" ++ text ++ "' is malformed")) := by
  unfold ofList
  rw [readAll_eq_error hbefore htext]

end Reading

end SupportedVersions

end FormatterModules
