import FormatterModules.Proofs.Engine.ImportOrder.Output

namespace FormatterModules.Engine.ImportLine

open Text

def SameImports (run other : List (List Char)) : Prop := ∀ line, line ∈ run ↔ line ∈ other

/-- Runs of the same imports, or the same line. -/
inductive Block.Alike : Block → Block → Prop
  | imports {run other : List (List Char)} (same : SameImports run other) :
      Alike (.imports run) (.imports other)
  | other (line : List Char) : Alike (.other line) (.other line)

/-- The texts differ at most in the order of the imports in each run, in how often an import is
repeated there, and in the ends of lines. -/
structure SameRuns (text other : List Char) : Prop where
  blocks : List.Forall₂ Block.Alike (blocks [] (contents text)) (blocks [] (contents other))
  final : text.getLast? = some '\n' ↔ other.getLast? = some '\n'

variable {groups : ImportGroups} {text other out out' : List Char} {run : List (List Char)}
  {lines : List (List Char)}

theorem forall_mem_run_iff (P : List Char → Prop) (run lines : List (List Char)) :
    (∀ r ∈ (blocks run lines).filterMap Block.run?, ∀ line ∈ r, P line) ↔
      (∀ line ∈ run, P line) ∧ ∀ line ∈ lines, isImport (trim line) = true → P (trim line) := by
  have hclose : ∀ run : List (List Char),
      (∀ r ∈ (closeRun run).filterMap Block.run?, ∀ line ∈ r, P line) ↔ ∀ line ∈ run, P line := by
    intro run
    unfold closeRun
    split
    · next h => simp [h]
    · simp [Block.run?]
  induction lines generalizing run with
  | nil =>
    rw [blocks, hclose]
    simp
  | cons line lines ih =>
    rw [blocks, List.forall_mem_cons]
    split
    · next h =>
      have hrest := ih (trim line :: run)
      rw [List.forall_mem_cons] at hrest
      tauto
    · next h =>
      have hrest := ih []
      rw [List.filterMap_append, List.forall_mem_append, hclose]
      simp only [List.filterMap_cons, Block.run?, hrest]
      simp [h]

theorem complete_iff_runs :
    Complete lines ↔ ∀ run ∈ runs lines, ∀ line ∈ run, isComplete line = true := by
  rw [runs, forall_mem_run_iff (fun line => isComplete line = true) [] lines]
  simp [Complete]

theorem forall_complete_iff {rs rs' : List (List (List Char))}
    (h : List.Forall₂ SameImports rs rs') :
    (∀ run ∈ rs, ∀ line ∈ run, isComplete line = true) ↔
      ∀ run ∈ rs', ∀ line ∈ run, isComplete line = true := by
  induction h with
  | nil => rfl
  | cons same _ ih =>
    rw [List.forall_mem_cons, List.forall_mem_cons, ih]
    exact and_congr_left' (forall_congr' fun line => imp_congr_left (same line))

theorem flatMap_sort_eq {bs bs' : List Block} (h : List.Forall₂ Block.Alike bs bs')
    (hruns : (bs.filterMap Block.run?).map (sortRun groups) =
      (bs'.filterMap Block.run?).map (sortRun groups)) :
    bs.flatMap (fun b => (b.sort groups).lines) = bs'.flatMap fun b => (b.sort groups).lines := by
  induction h with
  | nil => rfl
  | cons hb _ ih =>
    cases hb with
    | imports same =>
      obtain ⟨hrun, hrest⟩ := List.cons.inj hruns
      rw [List.flatMap_cons, List.flatMap_cons, ih hrest]
      exact congrArg (· ++ _) hrun
    | other line => exact congrArg (line :: ·) (ih hruns)

theorem SameRuns.sameImports (h : SameRuns text other) :
    List.Forall₂ SameImports (runs (contents text)) (runs (contents other)) := by
  refine List.rel_filterMap ?_ h.blocks
  rintro _ _ (⟨same⟩ | line)
  · exact .some same
  · exact .none

theorem SameRuns.format_eq_iff (h : SameRuns text other) (hout : groups.format text = .ok out)
    (hout' : groups.format other = .ok out') :
    out = out' ↔
      (runs (contents text)).map (sortRun groups) =
        (runs (contents other)).map (sortRun groups) := by
  constructor
  · intro heq
    rw [← runs_format hout, ← runs_format hout', heq]
  · intro hruns
    obtain ⟨-, rfl⟩ := format_eq_ok_iff.mp hout
    obtain ⟨-, rfl⟩ := format_eq_ok_iff.mp hout'
    rw [arranged, arranged, flatMap_sort_eq h.blocks hruns]
    simp [h.final]

theorem map_sortRun_eq_iff {rs rs' : List (List (List Char))} :
    rs.map (sortRun groups) = rs'.map (sortRun groups) ↔
      List.Forall₂ (fun run run' => ∀ n, dropRepeated (named n run) = dropRepeated (named n run'))
        rs rs' := by
  rw [← List.forall₂_eq_eq_eq, List.forall₂_map_left_iff, List.forall₂_map_right_iff]
  simp only [sortRun_eq_iff]

theorem map_sortRun_eq_of_distinguished {rs rs' : List (List (List Char))}
    (h : List.Forall₂ SameImports rs rs') (hdistinguished : ∀ run ∈ rs, Distinguished run) :
    rs.map (sortRun groups) = rs'.map (sortRun groups) := by
  induction h with
  | nil => rfl
  | cons same _ ih =>
    obtain ⟨hrun, hrest⟩ := List.forall_mem_cons.mp hdistinguished
    rw [List.map_cons, List.map_cons, hrun.sortRun_eq same, ih hrest]

/-- Texts whose runs have the same imports are both formatted or both refused. They are formatted alike
if and only if in each run the imports of each name agree, but for those that repeat the one before.
No import is left twice in a run if and only if none of its name stands between. If in each run no two
imports of one name are different, all this is so. -/
theorem formatted_alike_iff (p : Preferences) :
    ∃ engine, importOrder p = .ok engine ∧
      ∀ input other, SameRuns input.toList other.toList →
        ((∃ output, engine input = .ok output) ↔ ∃ output, engine other = .ok output) ∧
        ∀ output output', engine input = .ok output → engine other = .ok output' →
          (output = output' ↔
            List.Forall₂
              (fun run run' => ∀ n, dropRepeated (named n run) = dropRepeated (named n run'))
              (runs (contents input.toList)) (runs (contents other.toList))) ∧
          ((∀ run ∈ runs (contents output.toList), run.Nodup) ↔
            ∀ run ∈ runs (contents input.toList), ∀ n, (dropRepeated (named n run)).Nodup) ∧
          ((∀ run ∈ runs (contents input.toList), Distinguished run) →
            output = output' ∧ ∀ run ∈ runs (contents output.toList), run.Nodup) := by
  refine ⟨_, rfl, fun input other h => ⟨?_, fun output output' houtput houtput' => ?_⟩⟩
  · rw [exists_engine_iff, exists_engine_iff, exists_format_iff, exists_format_iff,
      complete_iff_runs, complete_iff_runs, forall_complete_iff h.sameImports]
  · obtain ⟨out, hout, rfl⟩ := engine_eq_ok_iff.mp houtput
    obtain ⟨out', hout', rfl⟩ := engine_eq_ok_iff.mp houtput'
    simp only [String.ofList_inj, String.toList_ofList, runs_format hout, List.forall_mem_map]
    refine ⟨(h.format_eq_iff hout hout').trans map_sortRun_eq_iff, ?_, ?_⟩
    · simp only [nodup_sortRun_iff]
    · intro hdistinguished
      refine ⟨(h.format_eq_iff hout hout').mpr ?_, ?_⟩
      · exact map_sortRun_eq_of_distinguished h.sameImports hdistinguished
      · exact fun run hrun => (hdistinguished run hrun).nodup_sortRun

/-- A run with an import that is repeated behind another, and the same imports in order. -/
def repeatedImports : String := "import b;\nimport java.a;\nimport b;\nx"

def orderedImports : String := "import java.a;\nimport b;\nx"

theorem repeatedImports_blocks : blocks [] (contents repeatedImports.toList) =
    [.imports ["import b;".toList, "import java.a;".toList, "import b;".toList],
      .other "x".toList] := by cbv

theorem orderedImports_blocks : blocks [] (contents orderedImports.toList) =
    [.imports ["import java.a;".toList, "import b;".toList], .other "x".toList] := by cbv

theorem formatted_alike_ordered :
    ∃ engine, importOrder .empty = .ok engine ∧
      engine repeatedImports = .ok orderedImports ∧ engine orderedImports = .ok orderedImports ∧
      ∀ run ∈ runs (contents orderedImports.toList), run.Nodup := by
  obtain ⟨engine, hengine, halike⟩ := formatted_alike_iff .empty
  have hruns : SameRuns repeatedImports.toList orderedImports.toList := by
    refine ⟨?_, by decide⟩
    rw [repeatedImports_blocks, orderedImports_blocks]
    refine .cons (.imports fun line => ?_) (.cons (.other _) .nil)
    simp only [List.mem_cons, List.not_mem_nil, or_false]
    tauto
  have hdistinguished : ∀ run ∈ runs (contents repeatedImports.toList), Distinguished run := by
    rw [runs, repeatedImports_blocks]
    decide +kernel
  have hfirst : engine repeatedImports = .ok orderedImports := by
    rw [← Except.ok.inj hengine]
    cbv
  obtain ⟨output, hsecond⟩ := (halike _ _ hruns).1.mp ⟨_, hfirst⟩
  obtain ⟨rfl, hnodup⟩ := ((halike _ _ hruns).2 _ _ hfirst hsecond).2.2 hdistinguished
  exact ⟨engine, hengine, hfirst, hsecond, hnodup⟩

def tiedImports : String := "import a;\nimport static a;\nimport a;\n"

def untiedImports : String := "import a;\nimport static a;\n"

theorem tiedImports_blocks : blocks [] (contents tiedImports.toList) =
    [.imports ["import a;".toList, "import static a;".toList, "import a;".toList]] := by cbv

theorem untiedImports_blocks : blocks [] (contents untiedImports.toList) =
    [.imports ["import a;".toList, "import static a;".toList]] := by cbv

theorem repeated_import_stays :
    (¬ ∀ p engine input other output, importOrder p = .ok engine →
      SameRuns input.toList other.toList → engine input = .ok output → engine other = .ok output) ∧
    ¬ ∀ p engine input output, importOrder p = .ok engine → engine input = .ok output →
      ∀ run ∈ runs (contents output.toList), run.Nodup := by
  have hformat : (ImportGroups.ofPreferences .empty).engine tiedImports = .ok tiedImports := by cbv
  constructor
  · intro hclaim
    have hruns : SameRuns tiedImports.toList untiedImports.toList := by
      refine ⟨?_, by decide⟩
      rw [tiedImports_blocks, untiedImports_blocks]
      refine .cons (.imports fun line => ?_) .nil
      simp only [List.mem_cons, List.not_mem_nil, or_false]
      tauto
    have hother := hclaim .empty _ tiedImports untiedImports tiedImports rfl hruns hformat
    have hactual : (ImportGroups.ofPreferences .empty).engine untiedImports =
        .ok untiedImports := by cbv
    rw [hactual] at hother
    exact absurd (Attempt.ok.inj hother) (by decide)
  · intro hclaim
    have hnodup := hclaim .empty _ tiedImports tiedImports rfl hformat
    rw [runs, tiedImports_blocks] at hnodup
    exact absurd (hnodup _ List.mem_cons_self) (by decide)

end FormatterModules.Engine.ImportLine
