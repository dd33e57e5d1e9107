import FormatterModules.Proofs.Engine.ImportOrder.Output

namespace FormatterModules.Engine.ImportLine

open Text

/-- A line other than an import that ends in two carriage returns and a line feed. -/
def LosesReturn (line : Line) : Prop :=
  isImport (trim line.content) = false ∧ line.terminator = .crlf ∧
    line.content.getLast? = some '\r'

instance : DecidablePred LosesReturn := fun line =>
  inferInstanceAs (Decidable (isImport (trim line.content) = false ∧ line.terminator = .crlf ∧
    line.content.getLast? = some '\r'))

theorem losesReturn_closed_iff {s : List Char} :
    LosesReturn (.closed s) ↔
      isImport (trim (dropReturn s)) = false ∧ (dropReturn s).getLast? = some '\r' := by
  unfold LosesReturn Line.closed
  by_cases hs : s.getLast? = some '\r'
  · simp [hs]
  · have hsame : dropReturn s = s := dropReturn_eq_self_iff.mpr hs
    simp [hs, hsame]

theorem not_losesReturn_last (s : List Char) : ¬ LosesReturn (.last s) := fun h => nomatch h.2.1

variable {groups : ImportGroups} {text out : List Char}

theorem map_dropReturn_eq_self_iff {written : List (List Char)}
    (htidy : ∀ l ∈ written, tidy l = l) :
    written.map dropReturn = written ↔
      ∀ l ∈ written, isImport (trim l) = false → l.getLast? ≠ some '\r' := by
  have hmap : written.map dropReturn = written.map id ↔ ∀ l ∈ written, dropReturn l = l :=
    List.map_inj_left
  rw [List.map_id] at hmap
  rw [hmap]
  refine forall₂_congr fun l hl => ?_
  constructor
  · exact fun h _ => dropReturn_eq_self_iff.mp h
  · intro h
    cases himport : isImport (trim l) with
    | true => exact dropReturn_of_import (htidy l hl) himport
    | false => exact dropReturn_eq_self_iff.mpr (h himport)

theorem forall_not_losesReturn_iff {parts : List (List Char)} {last : List Char}
    (hcut : IsCut text parts last) :
    (∀ line ∈ lines text, ¬ LosesReturn line) ↔
      ∀ l ∈ parts.map dropReturn, isImport (trim l) = false → l.getLast? ≠ some '\r' := by
  have hlast : ∀ line ∈ (remainder last).map Line.last, ¬ LosesReturn line :=
    List.forall_mem_map.mpr fun s _ => not_losesReturn_last s
  rw [hcut.lines_eq, List.forall_mem_append, and_iff_left hlast, List.forall_mem_map,
    List.forall_mem_map]
  simp only [losesReturn_closed_iff, not_and]

/-- The engine formats its own output, and writes it again as it is if and only if no line of the
text, other than an import, ends in two carriage returns and a line feed. -/
theorem formatted_again (p : Preferences) :
    ∃ engine, importOrder p = .ok engine ∧
      ∀ input output, engine input = .ok output →
        ∃ again, engine output = .ok again ∧
          (again = output ↔ ∀ line ∈ lines input.toList, ¬ LosesReturn line) := by
  refine ⟨_, rfl, fun input output houtput => ?_⟩
  obtain ⟨out, hout, rfl⟩ := engine_eq_ok_iff.mp houtput
  obtain ⟨parts, last, hcut⟩ := exists_isCut input.toList
  obtain ⟨written, final, hwritten, harranged, -, hmem⟩ := exists_isCut_format hcut hout
  obtain ⟨again, hagain, hcut'⟩ := exists_format_again hout hwritten harranged
  refine ⟨String.ofList again, ?_, ?_⟩
  · exact engine_eq_ok_iff.mpr ⟨again, by rwa [String.toList_ofList], rfl⟩
  · have htidy : ∀ l ∈ written, tidy l = l := fun l hl =>
      tidy_of_mem_arranged (harranged ▸ List.mem_append_left _ hl)
    rw [String.ofList_inj, hcut'.eq_iff hwritten, and_iff_left rfl,
      map_dropReturn_eq_self_iff htidy, forall_not_losesReturn_iff hcut]
    constructor
    · exact fun h l hl hother => h l ((hmem l hother).mpr hl) hother
    · exact fun h l hl hother => h l ((hmem l hother).mp hl) hother

def crlfImports : String := "b\r\nimport x;\r\nimport java.a;\r\n\r\nimport b;\r"

def crlfOutput : String := "b\nimport java.a;\nimport x;\n\nimport b;"

theorem formatted_again_crlf :
    ∃ engine, importOrder .empty = .ok engine ∧ engine crlfImports = .ok crlfOutput ∧
      engine crlfOutput = .ok crlfOutput := by
  obtain ⟨engine, hengine, hagain⟩ := formatted_again .empty
  have hfirst : engine crlfImports = .ok crlfOutput := by
    rw [← Except.ok.inj hengine]
    cbv
  obtain ⟨again, hformat, hsame⟩ := hagain crlfImports crlfOutput hfirst
  refine ⟨engine, hengine, hfirst, ?_⟩
  rwa [hsame.mpr (by decide +kernel)] at hformat

/-- Formatting once more changes the output of a text with two carriage returns at the end of a
line. -/
theorem formatted_again_changes :
    ¬ ∀ p engine input output, importOrder p = .ok engine → engine input = .ok output →
      engine output = .ok output := by
  intro hclaim
  have hsecond := hclaim .empty _ "x\r\r\n" "x\r\n" rfl (by cbv)
  have hactual : (ImportGroups.ofPreferences .empty).engine "x\r\n" = .ok "x\n" := by cbv
  rw [hactual] at hsecond
  exact absurd (Attempt.ok.inj hsecond) (by decide)

end FormatterModules.Engine.ImportLine
