import FormatterModules.Proofs.Engine.ImportOrder.Output

namespace FormatterModules.Engine.ImportLine

open Text

/-- An import that does not end in a semicolon. -/
def Unfinished (line : List Char) : Prop :=
  isImport (trim line) = true ∧ isComplete (trim line) = false

instance : DecidablePred Unfinished := fun line =>
  inferInstanceAs (Decidable (isImport (trim line) = true ∧ isComplete (trim line) = false))

/-- Of the imports that are not finished, the first, and how many lines are before it. -/
def FirstUnfinished (lines : List (List Char)) (index : Nat) (line : List Char) : Prop :=
  ∃ before after, lines = before ++ line :: after ∧ before.length = index ∧
    (∀ l ∈ before, ¬ Unfinished l) ∧ Unfinished line

/-- What becomes of a block. Of a run, the same imports stay in the order of their ranks, some of those
that are repeated left out; any other line stays as it is. -/
inductive Block.Rewritten (groups : ImportGroups) : Block → Block → Prop
  | imports {run result : List (List Char)} (ne_nil : result ≠ [])
      (length_le : result.length ≤ run.length) (same : ∀ line, line ∈ result ↔ line ∈ run)
      (sorted : Sorted groups result) (apart : result.IsChain (· ≠ ·)) :
      Rewritten groups (.imports run) (.imports result)
  | other (line : List Char) : Rewritten groups (.other line) (.other line)

variable {groups : ImportGroups} {text out : List Char} {lines : List (List Char)}
  {line : List Char}

theorem complete_iff_forall_not_unfinished :
    Complete lines ↔ ∀ line ∈ lines, ¬ Unfinished line := by
  simp [Complete, Unfinished]

theorem firstUnfinished_nil (index : Nat) (line : List Char) : ¬ FirstUnfinished [] index line := by
  rintro ⟨before, after, hlines, -⟩
  simp at hlines

theorem firstUnfinished_cons_self (h : Unfinished line) (index : Nat) (l : List Char) :
    FirstUnfinished (line :: lines) index l ↔ index = 0 ∧ l = line := by
  constructor
  · rintro ⟨before, after, hlines, rfl, hbefore, -⟩
    cases before with
    | nil => exact ⟨rfl, (List.cons.inj hlines).1.symm⟩
    | cons b before =>
      obtain ⟨rfl, -⟩ := List.cons.inj hlines
      exact absurd h (hbefore line List.mem_cons_self)
  · rintro ⟨rfl, rfl⟩
    exact ⟨[], lines, rfl, rfl, List.forall_mem_nil _, h⟩

theorem exists_firstUnfinished_cons (h : ¬ Unfinished line) (P : Nat → List Char → Prop) :
    (∃ index l, FirstUnfinished (line :: lines) index l ∧ P index l) ↔
      ∃ index l, FirstUnfinished lines index l ∧ P (index + 1) l := by
  constructor
  · rintro ⟨_, l, ⟨before, after, hlines, rfl, hbefore, hl⟩, hP⟩
    cases before with
    | nil => exact absurd ((List.cons.inj hlines).1 ▸ hl) h
    | cons b before =>
      exact ⟨before.length, l, ⟨before, after, (List.cons.inj hlines).2, rfl,
        (List.forall_mem_cons.mp hbefore).2, hl⟩, hP⟩
  · rintro ⟨_, l, ⟨before, after, rfl, rfl, hbefore, hl⟩, hP⟩
    exact ⟨_, l, ⟨line :: before, after, rfl, rfl, List.forall_mem_cons.mpr ⟨h, hbefore⟩, hl⟩, hP⟩

theorem arrange_eq_error_iff (groups : ImportGroups) (number : Nat) (run lines : List (List Char))
    (e : EngineError) :
    groups.arrange number run lines = .error e ↔
      ∃ index line, FirstUnfinished lines index line ∧
        e = ImportGroups.malformed (number + index) (trim line) := by
  induction lines generalizing number run with
  | nil => simp [ImportGroups.arrange, firstUnfinished_nil]
  | cons line rest ih =>
    -- A line that is not refused only moves the number on, whatever the run in progress is.
    have hlater : ¬ Unfinished line → ∀ run,
        (groups.arrange (number + 1) run rest = .error e ↔
          ∃ index l, FirstUnfinished (line :: rest) index l ∧
            e = ImportGroups.malformed (number + index) (trim l)) := by
      intro hline run
      rw [ih, exists_firstUnfinished_cons hline]
      simp only [Nat.add_right_comm, Nat.add_assoc]
    rw [ImportGroups.arrange]
    by_cases himport : isImport (trim line) = true
    · rw [if_pos himport]
      by_cases hcomplete : isComplete (trim line) = true
      · rw [if_pos hcomplete]
        exact hlater (fun h => by simp [h.2] at hcomplete) _
      · rw [if_neg hcomplete]
        simp only [firstUnfinished_cons_self ⟨himport, eq_false_of_ne_true hcomplete⟩]
        simp [eq_comm]
    · rw [if_neg himport, ← hlater (fun h => himport h.1) []]
      cases groups.arrange (number + 1) [] rest <;> simp [Except.map]

theorem engine_ne_panicked {input : String} : groups.engine input ≠ .panicked := by
  unfold ImportGroups.engine
  cases groups.format input.toList <;> simp [Except.map, Attempt.ofExcept]

theorem engine_eq_failed_iff {input : String} {e : EngineError} :
    groups.engine input = .failed e ↔ groups.format input.toList = .error e := by
  unfold ImportGroups.engine
  cases groups.format input.toList <;> simp [Except.map, Attempt.ofExcept]

theorem format_eq_error_iff {e : EngineError} :
    groups.format text = .error e ↔
      ∃ index line, FirstUnfinished (contents text) index line ∧
        e = ImportGroups.malformed (index + 1) (trim line) := by
  have harrange := arrange_eq_error_iff groups 1 [] (contents text) e
  simp only [Nat.add_comm 1] at harrange
  rw [← harrange]
  change (groups.arrange 1 [] (contents text)).map _ = .error e ↔ _
  cases groups.arrange 1 [] (contents text) <;> simp [Except.map]

theorem exists_format_eq_error_iff :
    (∃ e, groups.format text = .error e) ↔ ∃ line ∈ contents text, Unfinished line := by
  have hok : (∃ out, groups.format text = .ok out) ↔ ∀ line ∈ contents text, ¬ Unfinished line := by
    rw [exists_format_iff, complete_iff_forall_not_unfinished]
  cases h : groups.format text with
  | ok out =>
    have hfinished := hok.mp ⟨out, h⟩
    refine iff_of_false nofun ?_
    rintro ⟨line, hline, hunfinished⟩
    exact hfinished line hline hunfinished
  | error e =>
    refine iff_of_true ⟨e, rfl⟩ ?_
    obtain ⟨index, line, ⟨before, after, hlines, -, -, hline⟩, -⟩ := format_eq_error_iff.mp h
    exact ⟨line, by rw [hlines]; simp, hline⟩

theorem rewritten_sort {bs : List Block} (h : Separated bs) (groups : ImportGroups) :
    List.Forall₂ (Block.Rewritten groups) bs (bs.map (Block.sort groups)) := by
  rw [List.forall₂_map_right_iff]
  refine List.forall₂_same.mpr fun b hb => ?_
  cases b with
  | imports run =>
    obtain ⟨line, hline⟩ := List.exists_mem_of_ne_nil run (h.tidy_of_mem hb).1
    exact .imports (List.ne_nil_of_mem (mem_sortRun.mpr hline)) length_sortRun_le
      (fun _ => mem_sortRun) (sorted_sortRun groups run) (isChain_dropRepeated _)
  | other line => exact .other line

theorem getLast?_format (h : groups.format text = .ok out) :
    out.getLast? = some '\n' ↔ text.getLast? = some '\n' := by
  obtain ⟨parts, last, hcut⟩ := exists_isCut text
  obtain ⟨written, final, hout, harranged, hfinal, -⟩ := exists_isCut_others hcut h
  rw [hout.getLast?_eq_lf_iff, hcut.getLast?_eq_lf_iff, hfinal]
  refine and_congr_left fun hlast => not_congr ?_
  -- Without a line behind the last line feed, the lines before it are all there are.
  have hnone : arranged groups (contents text) = [] ↔ contents text = [] := by
    rw [List.eq_nil_iff_forall_not_mem, List.eq_nil_iff_forall_not_mem]
    simp [mem_arranged]
  rw [harranged, hcut.contents_eq, hlast, hfinal.mpr hlast] at hnone
  simpa [remainder] using hnone

/-- A text is refused if and only if one of its imports is not finished, and the error has the number
and the import of the first. Otherwise the output is the text with each run, as long as possible, in
order, and ends in a line feed if the text does. -/
theorem rewritten_by_blocks (p : Preferences) :
    ∃ engine, importOrder p = .ok engine ∧
      ∀ input,
        engine input ≠ .panicked ∧
        ((∃ e, engine input = .failed e) ↔ ∃ line ∈ contents input.toList, Unfinished line) ∧
        (∀ e, engine input = .failed e ↔
          ∃ index line, FirstUnfinished (contents input.toList) index line ∧
            e.message = "line " ++ toString (index + 1) ++ ": malformed import '" ++
              String.ofList (trim line) ++ "'") ∧
        ∀ output, engine input = .ok output →
          (∃ bs results, Separated bs ∧
            bs.flatMap Block.lines = (contents input.toList).map tidy ∧
            List.Forall₂ (Block.Rewritten (ImportGroups.ofPreferences p)) bs results ∧
            output.toList = ['\n'].intercalate (results.flatMap Block.lines) ++
              if input.toList.getLast? = some '\n' then ['\n'] else []) ∧
          (output.toList.getLast? = some '\n' ↔ input.toList.getLast? = some '\n') := by
  refine ⟨_, rfl, fun input => ⟨engine_ne_panicked, ?_, fun e => ?_, fun output houtput => ⟨?_, ?_⟩⟩⟩
  · simp only [engine_eq_failed_iff]
    exact exists_format_eq_error_iff
  · rw [engine_eq_failed_iff, format_eq_error_iff]
    refine exists_congr fun index => exists_congr fun line => and_congr_right fun _ => ?_
    rw [Nat.toString_eq_ofList_toDigits]
    exact ⟨fun h => h ▸ rfl, fun h => congrArg EngineError.mk h⟩
  · obtain ⟨out, hout, rfl⟩ := engine_eq_ok_iff.mp houtput
    obtain ⟨-, hresult⟩ := format_eq_ok_iff.mp hout
    have hseparated : Separated (blocks [] (contents input.toList)) :=
      separated_blocks (List.forall_mem_nil _) _
    refine ⟨_, _, hseparated, flatMap_lines_blocks [] _, rewritten_sort hseparated _, ?_⟩
    rw [String.toList_ofList, ← hresult, arranged, List.flatMap_map]
    simp
  · obtain ⟨out, hout, rfl⟩ := engine_eq_ok_iff.mp houtput
    rw [String.toList_ofList]
    exact getLast?_format hout

def twoRuns : String := "a\nimport b;\n import java.a;\r\nimport b;\n\nimport c;"

def twoRunsOutput : String := "a\nimport java.a;\nimport b;\n\nimport c;"

def unfinishedText : String := "a\nimport b;\n import c\nimport d\n"

theorem rewritten_by_blocks_twoRuns :
    ∃ engine, importOrder .empty = .ok engine ∧ engine twoRuns = .ok twoRunsOutput ∧
      (∃ bs results, Separated bs ∧
        bs.flatMap Block.lines = (contents twoRuns.toList).map tidy ∧
        List.Forall₂ (Block.Rewritten (ImportGroups.ofPreferences .empty)) bs results ∧
        twoRunsOutput.toList = ['\n'].intercalate (results.flatMap Block.lines)) ∧
      engine unfinishedText = .failed ⟨"line 3: malformed import 'import c'"⟩ := by
  obtain ⟨engine, hengine, hrewritten⟩ := rewritten_by_blocks .empty
  have hformat : engine twoRuns = .ok twoRunsOutput := by
    rw [← Except.ok.inj hengine]
    cbv
  obtain ⟨⟨bs, results, hseparated, hlines, hresults, houtput⟩, -⟩ :=
    (hrewritten twoRuns).2.2.2 twoRunsOutput hformat
  have hends : twoRuns.toList.getLast? ≠ some '\n' := by decide
  rw [if_neg hends, List.append_nil] at houtput
  have hfirst : FirstUnfinished (contents unfinishedText.toList) 2 " import c".toList := by
    exact ⟨["a".toList, "import b;".toList], ["import d".toList], by cbv, rfl, by decide +kernel,
      by decide +kernel⟩
  exact ⟨engine, hengine, hformat, ⟨bs, results, hseparated, hlines, hresults, houtput⟩,
    ((hrewritten unfinishedText).2.2.1 _).mpr ⟨2, _, hfirst, by decide +kernel⟩⟩

end FormatterModules.Engine.ImportLine
