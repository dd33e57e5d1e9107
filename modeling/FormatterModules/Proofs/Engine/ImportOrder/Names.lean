import FormatterModules.Proofs.Engine.ImportOrder.Output
import Mathlib.Data.Char

namespace FormatterModules.Engine.ImportLine

open Text

def importedName (line : List Char) : List Char :=
  let rest := trimStart (line.drop (keyword ++ [' ']).length)
  let path := if staticWord.isPrefixOf rest then rest.drop staticWord.length else rest
  trim path.dropLast

def compareNames (groups : ImportGroups) : List Char → List Char → Ordering :=
  compareLex (compareOn fun line => groups.groupIndex (importedName line)) (compareOn importedName)

instance (groups : ImportGroups) : Std.TransCmp (compareNames groups) :=
  inferInstanceAs (Std.TransCmp (compareLex
    (compareOn fun line => groups.groupIndex (importedName line)) (compareOn importedName)))

/-- The imports stand in the order of their groups, and in a group in that of their names. -/
def SortedByName (groups : ImportGroups) (run : List (List Char)) : Prop :=
  run.Pairwise fun a b => (compareNames groups a b).isLE = true

/-- No two imports are the other way around with the semicolons, and those that the engine takes for one
name are in the order of their names already. -/
structure NamesAgree (groups : ImportGroups) (run : List (List Char)) : Prop where
  apart : ∀ a ∈ run, ∀ b ∈ run, compareNames groups a b = .lt → precedes groups a b = true
  tied : ∀ n, SortedByName groups (named n run)

/-- The engine takes the name and the semicolon for the name. Neither with nor without the semicolon is
it a group. -/
structure Plain (groups : ImportGroups) (line : List Char) : Prop where
  name_eq : name line = importedName line ++ [';']
  name_notMem : importedName line ∉ groups.names
  terminated_notMem : importedName line ++ [';'] ∉ groups.names

/-- Two imports of one group. The name of the second is that of the first and more, which starts with a
character before the semicolon. -/
def Continues (groups : ImportGroups) (a b : List Char) : Prop :=
  groups.groupIndex (importedName a) = groups.groupIndex (importedName b) ∧
    ∃ c rest, importedName b = importedName a ++ c :: rest ∧ c < ';'

variable {groups : ImportGroups} {a b : List Char} {run : List (List Char)}

instance : DecidablePred (Plain groups) := fun line =>
  decidable_of_iff (name line = importedName line ++ [';'] ∧ importedName line ∉ groups.names ∧
    importedName line ++ [';'] ∉ groups.names)
    ⟨fun h => ⟨h.1, h.2.1, h.2.2⟩, fun h => ⟨h.1, h.2, h.3⟩⟩

theorem continues_iff :
    Continues groups a b ↔
      groups.groupIndex (importedName a) = groups.groupIndex (importedName b) ∧
        importedName a <+: importedName b ∧
        ((importedName b).drop (importedName a).length).head?.any (· < ';') = true := by
  refine and_congr_right fun _ => ⟨?_, ?_⟩
  · rintro ⟨c, rest, hname, hc⟩
    rw [hname]
    simp [hc]
  · rintro ⟨⟨more, hmore⟩, hhead⟩
    rw [← hmore, List.drop_left] at hhead
    cases more with
    | nil => simp at hhead
    | cons c rest => exact ⟨c, rest, hmore.symm, by simpa using hhead⟩

instance : Decidable (Continues groups a b) := decidable_of_iff _ continues_iff.symm

theorem compareNames_eq_then (groups : ImportGroups) (a b : List Char) :
    compareNames groups a b =
      (compare (groups.groupIndex (importedName a)) (groups.groupIndex (importedName b))).then
        (compare (importedName a) (importedName b)) := rfl

theorem compareNames_of_eq (h : importedName a = importedName b) :
    compareNames groups a b = .eq :=
  compareLex_eq_eq.mpr ⟨compareOn_eq_eq.mpr (by rw [h]), compareOn_eq_eq.mpr h⟩

theorem compareNames_self (a : List Char) : (compareNames groups a a).isLE = true := by
  rw [compareNames_of_eq rfl]
  rfl

theorem eq_or_rel_of_pairwise {R : List Char → List Char → Prop} (h : run.Pairwise R) (ha : a ∈ run)
    (hb : b ∈ run) : a = b ∨ R a b ∨ R b a := by
  induction run with
  | nil => cases ha
  | cons first rest ih =>
    obtain ⟨hfirst, hrest⟩ := List.pairwise_cons.mp h
    obtain rfl | harest := List.mem_cons.mp ha
    · obtain rfl | hbrest := List.mem_cons.mp hb
      · exact .inl rfl
      · exact .inr (.inl (hfirst b hbrest))
    · obtain rfl | hbrest := List.mem_cons.mp hb
      · exact .inr (.inr (hfirst a harest))
      · exact ih hrest harest hbrest

theorem sortedByName_sortRun_iff :
    SortedByName groups (sortRun groups run) ↔ NamesAgree groups run := by
  have hsorted := sorted_sortRun groups run
  constructor
  · intro h
    refine ⟨fun a ha b hb hlt => ?_, fun n => ?_⟩
    · have hboth := hsorted.and h
      obtain rfl | hab | hba :=
        eq_or_rel_of_pairwise hboth (mem_sortRun.mpr ha) (mem_sortRun.mpr hb)
      · exact precedes_of_name_eq rfl
      · exact hab.1
      · rw [Std.OrientedCmp.gt_iff_lt.mpr hlt] at hba
        exact absurd hba.2 (by decide)
    · have hnamed : SortedByName groups (named n (sortRun groups run)) :=
        h.sublist List.filter_sublist
      rw [named_sortRun] at hnamed
      exact (pairwise_dropRepeated_iff compareNames_self).mp hnamed
  · rintro ⟨hapart, htied⟩
    refine List.pairwise_iff_forall_sublist.mpr fun {a b} hab => ?_
    have hmem : ∀ l ∈ [a, b], l ∈ run := fun l hl => mem_sortRun.mp (hab.subset hl)
    have hprecedes : precedes groups a b = true := List.pairwise_iff_forall_sublist.mp hsorted hab
    by_contra hnot
    have hback : precedes groups b a = true :=
      hapart b (hmem b (by simp)) a (hmem a (by simp)) (Std.OrientedCmp.lt_of_not_isLE hnot)
    have hname : name a = name b := name_eq_of_precedes hprecedes hback
    -- Imports of one name stay in their order.
    have hpair : named (name b) [a, b] = [a, b] := List.filter_eq_self.mpr (by simp [hname])
    have hnamed : (named (name b) [a, b]).Sublist (named (name b) (sortRun groups run)) :=
      hab.filter _
    rw [hpair, named_sortRun] at hnamed
    exact hnot (List.pairwise_iff_forall_sublist.mp (htied (name b))
      (hnamed.trans (dropRepeated_sublist _)))

theorem covers_concat {group : List Char} {n : List Char} (hn : n ≠ group)
    (ht : n ++ [';'] ≠ group) :
    ImportGroups.covers group (n ++ [';']) = ImportGroups.covers group n := by
  have hdot : group ++ ['.'] ≠ n ++ [';'] := fun he => absurd (List.append_inj' he rfl).2 (by decide)
  rw [Bool.eq_iff_iff]
  simp [ImportGroups.covers, hn, ht, List.prefix_concat_iff, hdot]

theorem Plain.groupIndex_eq (h : Plain groups a) :
    groups.groupIndex (name a) = groups.groupIndex (importedName a) := by
  obtain ⟨hname, hn, ht⟩ := h
  rw [hname]
  unfold ImportGroups.groupIndex
  generalize groups.names = names at hn ht
  induction names with
  | nil => rfl
  | cons group names ih =>
    obtain ⟨hne, hn⟩ := List.ne_and_not_mem_of_not_mem_cons hn
    obtain ⟨htne, ht⟩ := List.ne_and_not_mem_of_not_mem_cons ht
    rw [List.findIdx_cons, List.findIdx_cons, covers_concat hne htne, ih hn ht]

theorem compare_concat_eq_gt_iff {s t : List Char} (h : compare s t = .lt) (d : Char) :
    compare (s ++ [d]) (t ++ [d]) = .gt ↔ ∃ c rest, t = s ++ c :: rest ∧ c < d := by
  induction s generalizing t with
  | nil =>
    cases t with
    | nil => simp at h
    | cons c rest =>
      have hend : compare [] (rest ++ [d]) = .lt := by cases rest <;> exact List.compare_nil_cons
      rw [List.nil_append, List.cons_append, List.compare_cons_cons, hend]
      simp [Ordering.then_eq_gt, compare_gt_iff_gt]
  | cons x s ih =>
    cases t with
    | nil => simp [List.compare_cons_nil] at h
    | cons y t =>
      rw [List.compare_cons_cons, Ordering.then_eq_lt] at h
      rw [List.cons_append, List.cons_append, List.compare_cons_cons, Ordering.then_eq_gt]
      obtain hlt | ⟨heq, hrest⟩ := h
      · have hne : y ≠ x := by
          rintro rfl
          simp at hlt
        simp [hlt, hne]
      · obtain rfl := Std.LawfulEqCmp.eq_of_compare heq
        simp [ih hrest]

theorem compare_append_cons (s : List Char) (c : Char) (rest : List Char) :
    compare s (s ++ c :: rest) = .lt := by
  induction s with
  | nil => exact List.compare_nil_cons
  | cons x s ih =>
    rw [List.cons_append, List.compare_cons_cons, ih]
    simp

theorem Continues.compareNames_eq_lt (h : Continues groups a b) :
    compareNames groups a b = .lt := by
  obtain ⟨hgroup, c, rest, hname, -⟩ := h
  rw [compareNames_eq_then, hgroup, hname, compare_append_cons]
  simp

theorem Plain.compareRanks_eq (ha : Plain groups a) (hb : Plain groups b) :
    compareRanks groups a b =
      (compare (groups.groupIndex (importedName a)) (groups.groupIndex (importedName b))).then
        (compare (importedName a ++ [';']) (importedName b ++ [';'])) := by
  change (compare (groups.groupIndex (name a)) (groups.groupIndex (name b))).then
    (compare (name a) (name b)) = _
  rw [ha.groupIndex_eq, hb.groupIndex_eq, ha.name_eq, hb.name_eq]

theorem Plain.not_precedes_iff (ha : Plain groups a) (hb : Plain groups b)
    (h : compareNames groups a b = .lt) : ¬ precedes groups a b = true ↔ Continues groups a b := by
  rw [precedes_eq, ha.compareRanks_eq hb, Continues]
  rw [compareNames_eq_then] at h
  obtain hgroup | ⟨hgroup, hname⟩ := Ordering.then_eq_lt.mp h
  · have hne : groups.groupIndex (importedName a) ≠ groups.groupIndex (importedName b) :=
      (compare_lt_iff_lt.mp hgroup).ne
    simp [hgroup, hne]
  · rw [hgroup, Ordering.eq_then, ← compare_concat_eq_gt_iff hname ';']
    have hsame := Std.LawfulEqCmp.eq_of_compare hgroup
    cases compare (importedName a ++ [';']) (importedName b ++ [';']) <;> simp [hsame]

theorem namesAgree_iff_of_plain (h : ∀ line ∈ run, Plain groups line) :
    NamesAgree groups run ↔ ∀ a ∈ run, ∀ b ∈ run, ¬ Continues groups a b := by
  constructor
  · intro hagree a ha b hb hcontinues
    have hlt := hcontinues.compareNames_eq_lt
    exact ((h a ha).not_precedes_iff (h b hb) hlt).mpr hcontinues (hagree.apart a ha b hb hlt)
  · intro hnone
    refine ⟨fun a ha b hb hlt => ?_, fun n => ?_⟩
    · by_contra hnot
      exact hnone a ha b hb (((h a ha).not_precedes_iff (h b hb) hlt).mp hnot)
    · refine List.pairwise_of_forall_mem_list fun a ha b hb => ?_
      obtain ⟨ha, hna⟩ := mem_named.mp ha
      obtain ⟨hb, hnb⟩ := mem_named.mp hb
      have hterminated := hna.trans hnb.symm
      rw [(h a ha).name_eq, (h b hb).name_eq] at hterminated
      rw [compareNames_of_eq (List.append_cancel_right hterminated)]
      rfl

/-- Each run of the output is in the order of what the engine takes for the names, the semicolons with
them. It is in the order of the names if and only if the two orders agree on the run of the text. Where
each import is its name with the semicolon and no name is a group, that is if and only if no name of a
run goes on where another of its group ends, with a character before the semicolon. -/
theorem ordered_by_name_iff (p : Preferences) :
    ∃ engine, importOrder p = .ok engine ∧
      ∀ input output, engine input = .ok output →
        (∀ run ∈ runs (contents output.toList), Sorted (ImportGroups.ofPreferences p) run) ∧
        ((∀ run ∈ runs (contents output.toList),
            SortedByName (ImportGroups.ofPreferences p) run) ↔
          ∀ run ∈ runs (contents input.toList), NamesAgree (ImportGroups.ofPreferences p) run) ∧
        ((∀ run ∈ runs (contents input.toList), ∀ line ∈ run,
            Plain (ImportGroups.ofPreferences p) line) →
          ((∀ run ∈ runs (contents output.toList),
              SortedByName (ImportGroups.ofPreferences p) run) ↔
            ∀ run ∈ runs (contents input.toList), ∀ a ∈ run, ∀ b ∈ run,
              ¬ Continues (ImportGroups.ofPreferences p) a b)) := by
  refine ⟨_, rfl, fun input output houtput => ?_⟩
  obtain ⟨out, hout, rfl⟩ := engine_eq_ok_iff.mp houtput
  have hnames : (∀ run ∈ runs (contents out), SortedByName (ImportGroups.ofPreferences p) run) ↔
      ∀ run ∈ runs (contents input.toList), NamesAgree (ImportGroups.ofPreferences p) run := by
    simp only [runs_format hout, List.forall_mem_map, sortedByName_sortRun_iff]
  rw [String.toList_ofList]
  refine ⟨?_, hnames, fun hplain => hnames.trans ?_⟩
  · simp only [runs_format hout, List.forall_mem_map]
    exact fun run _ => sorted_sortRun _ run
  · exact forall₂_congr fun run hrun => namesAgree_iff_of_plain (hplain run hrun)

def groupedImports : String :=
  "import b;\nimport static java.io.of;\nimport java.Maps;\nimport org.x;\nimport java.Map;\n"

def groupedOutput : String :=
  "import java.Map;\nimport java.Maps;\nimport static java.io.of;\nimport org.x;\nimport b;\n"

theorem ordered_by_name_iff_grouped :
    ∃ engine, importOrder .empty = .ok engine ∧ engine groupedImports = .ok groupedOutput ∧
      ∀ run ∈ runs (contents groupedOutput.toList),
        SortedByName (ImportGroups.ofPreferences .empty) run := by
  obtain ⟨engine, hengine, hordered⟩ := ordered_by_name_iff .empty
  have hformat : engine groupedImports = .ok groupedOutput := by
    rw [← Except.ok.inj hengine]
    cbv
  have hruns : runs (contents groupedImports.toList) =
      [["import b;".toList, "import static java.io.of;".toList, "import java.Maps;".toList,
        "import org.x;".toList, "import java.Map;".toList]] := by cbv
  have hplain : ∀ run ∈ runs (contents groupedImports.toList), ∀ line ∈ run,
      Plain (ImportGroups.ofPreferences .empty) line := by
    rw [hruns]
    decide +kernel
  have hnone : ∀ run ∈ runs (contents groupedImports.toList), ∀ a ∈ run, ∀ b ∈ run,
      ¬ Continues (ImportGroups.ofPreferences .empty) a b := by
    rw [hruns]
    decide +kernel
  exact ⟨engine, hengine, hformat, ((hordered _ _ hformat).2.2 hplain).mpr hnone⟩

def nestedImports : String := "import a.b;\nimport a;\n"

def groupItself : String := "import b;\nimport java;\n"

/-- The names are not in order where the semicolon decides, and an import of a group itself stands with
those of no group. -/
theorem semicolon_is_compared :
    (¬ ∀ p engine input output, importOrder p = .ok engine → engine input = .ok output →
      ∀ run ∈ runs (contents output.toList), SortedByName (ImportGroups.ofPreferences p) run) ∧
    ¬ ∀ p engine input output, importOrder p = .ok engine → engine input = .ok output →
      ∀ run ∈ runs (contents output.toList), run.Pairwise fun a b =>
        (ImportGroups.ofPreferences p).groupIndex (importedName a) ≤
          (ImportGroups.ofPreferences p).groupIndex (importedName b) := by
  constructor
  · intro hclaim
    have hsorted := hclaim .empty _ nestedImports nestedImports rfl (by cbv)
    have hruns : runs (contents nestedImports.toList) =
        [["import a.b;".toList, "import a;".toList]] := by cbv
    rw [hruns] at hsorted
    exact absurd (List.pairwise_pair.mp (hsorted _ List.mem_cons_self)) (by decide +kernel)
  · intro hclaim
    have hsorted := hclaim .empty _ groupItself groupItself rfl (by cbv)
    have hruns : runs (contents groupItself.toList) =
        [["import b;".toList, "import java;".toList]] := by cbv
    rw [hruns] at hsorted
    exact absurd (List.pairwise_pair.mp (hsorted _ List.mem_cons_self)) (by decide +kernel)

end FormatterModules.Engine.ImportLine
