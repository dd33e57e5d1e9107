import FormatterModules.Proofs.Engine.ImportOrder.Output

namespace FormatterModules.Engine.ImportLine

open Text

def otherLines (text : List Char) : List Line :=
  (lines text).filter fun line => !isImport (trim line.content)

/-- The characters of a line, with a line feed for whatever ends it. -/
def withLineFeed (line : Line) : List Char :=
  line.content ++ if line.terminator = .none then [] else ['\n']

variable {groups : ImportGroups} {text out : List Char}

theorem withLineFeed_closed (s : List Char) :
    withLineFeed (.closed s) = dropReturn s ++ ['\n'] := by
  unfold withLineFeed Line.closed
  split <;> simp_all

theorem withLineFeed_eq_chars_iff {line : Line} :
    withLineFeed line = line.chars ↔ line.terminator ≠ .crlf := by
  obtain ⟨content, terminator⟩ := line
  cases terminator <;> simp [withLineFeed, Line.chars, Terminator.chars]

theorem otherLines_eq {parts : List (List Char)} {last : List Char} (hcut : IsCut text parts last) :
    otherLines text =
      (others parts).map Line.closed ++ (others (remainder last)).map Line.last := by
  have hclosed : ∀ s, (Line.closed s).content = dropReturn s := fun _ => rfl
  rw [otherLines, hcut.lines_eq, List.filter_append, List.filter_map, List.filter_map]
  simp only [Function.comp_def, hclosed, trim_dropReturn]
  rfl

theorem others_map_dropReturn (parts : List (List Char)) :
    others (parts.map dropReturn) = (others parts).map dropReturn := by
  unfold others
  rw [List.filter_map]
  simp only [Function.comp_def, trim_dropReturn]

theorem map_chars_otherLines (h : groups.format text = .ok out) :
    (otherLines out).map Line.chars = (otherLines text).map withLineFeed := by
  obtain ⟨parts, last, hcut⟩ := exists_isCut text
  obtain ⟨written, final, hout, -, -, hwritten, hfinal⟩ := exists_isCut_others hcut h
  have hchars : ∀ s, (Line.last s).chars = withLineFeed (.last s) := fun _ => rfl
  rw [otherLines_eq hout, otherLines_eq hcut, hwritten, hfinal, others_map_dropReturn]
  simp only [List.map_append, List.map_map, Function.comp_def, Line.chars_closed, withLineFeed_closed,
    hchars]

theorem map_chars_otherLines_eq_iff (h : groups.format text = .ok out) :
    (otherLines out).map Line.chars = (otherLines text).map Line.chars ↔
      ∀ line ∈ otherLines text, line.terminator ≠ .crlf := by
  rw [map_chars_otherLines h, List.map_inj_left]
  exact forall₂_congr fun _ _ => withLineFeed_eq_chars_iff

theorem otherLines_eq_lines_iff :
    otherLines text = lines text ↔ ∀ line ∈ lines text, isImport (trim line.content) = false := by
  simp [otherLines]

theorem no_import_in_output (h : groups.format text = .ok out)
    (hnone : ∀ line ∈ lines text, isImport (trim line.content) = false) :
    ∀ line ∈ lines out, isImport (trim line.content) = false := by
  obtain ⟨parts, last, hcut⟩ := exists_isCut text
  obtain ⟨written, final, hout, harranged, -⟩ := exists_isCut_format hcut h
  intro line hline
  have hrespelled := respelled_contents hout harranged
  obtain ⟨l, hl, hsame⟩ := exists_respelled_of_mem hrespelled (List.mem_map_of_mem hline)
  obtain ⟨s, hs, rfl⟩ := List.mem_map.mp (mem_arranged.mp hl)
  obtain ⟨source, hsource, rfl⟩ := List.mem_map.mp hs
  have htrim : trim line.content = trim (tidy source.content) := hsame.elim (congrArg trim) And.right
  rw [htrim, trim_tidy]
  exact hnone source hsource

theorem exists_format_of_no_import (groups : ImportGroups)
    (hnone : ∀ line ∈ lines text, isImport (trim line.content) = false) :
    ∃ out, groups.format text = .ok out := by
  refine exists_format_iff.mpr fun line hline himport => ?_
  obtain ⟨source, hsource, rfl⟩ := List.mem_map.mp hline
  rw [hnone source hsource] at himport
  cases himport

theorem format_eq_self_iff (groups : ImportGroups)
    (hnone : ∀ line ∈ lines text, isImport (trim line.content) = false) :
    groups.format text = .ok text ↔ ∀ line ∈ lines text, line.terminator ≠ .crlf := by
  have hlines : otherLines text = lines text := otherLines_eq_lines_iff.mpr hnone
  constructor
  · intro h
    rw [← hlines]
    exact (map_chars_otherLines_eq_iff h).mp rfl
  · intro hcrlf
    -- The output has no imports either, so its other lines are all of it.
    obtain ⟨out, hout⟩ := exists_format_of_no_import groups hnone
    have hkept := (map_chars_otherLines_eq_iff hout).mpr (hlines ▸ hcrlf)
    rw [hlines, otherLines_eq_lines_iff.mpr (no_import_in_output hout hnone)] at hkept
    have hsame : unlines (lines out) = unlines (lines text) := by
      rw [unlines, List.flatMap_def, hkept, ← List.flatMap_def, unlines]
    rw [hout, ← unlines_lines out, hsame, unlines_lines]

/-- The lines that are no imports stay in their order, each with a line feed if anything ends it. They
are the same characters if and only if none of them ends in a carriage return and a line feed, and
this is also when a text without imports stays as it is. -/
theorem other_lines_kept (p : Preferences) :
    ∃ engine, importOrder p = .ok engine ∧
      (∀ input output, engine input = .ok output →
        (otherLines output.toList).map Line.chars =
          (otherLines input.toList).map withLineFeed ∧
        ((otherLines output.toList).map Line.chars =
            (otherLines input.toList).map Line.chars ↔
          ∀ line ∈ otherLines input.toList, line.terminator ≠ .crlf)) ∧
      ∀ input, (∀ line ∈ lines input.toList, isImport (trim line.content) = false) →
        (engine input = .ok input ↔ ∀ line ∈ lines input.toList, line.terminator ≠ .crlf) := by
  refine ⟨_, rfl, fun input output houtput => ?_, fun input hnone => ?_⟩
  · obtain ⟨out, hout, rfl⟩ := engine_eq_ok_iff.mp houtput
    rw [String.toList_ofList]
    exact ⟨map_chars_otherLines hout, map_chars_otherLines_eq_iff hout⟩
  · rw [← format_eq_self_iff (ImportGroups.ofPreferences p) hnone, engine_eq_ok_iff]
    constructor
    · rintro ⟨out, hout, rfl⟩
      rw [String.toList_ofList] at hout ⊢
      exact hout
    · exact fun h => ⟨input.toList, h, String.ofList_toList⟩

def lineFeedText : String := "a\n\nimport b;\n\timport java.a;\n x \ny\r"

def lineFeedOutput : String := "a\n\nimport java.a;\nimport b;\n x \ny\r"

def plainText : String := "import\n\n imported;\r"

theorem other_lines_kept_lineFeeds :
    ∃ engine, importOrder .empty = .ok engine ∧ engine lineFeedText = .ok lineFeedOutput ∧
      (otherLines lineFeedOutput.toList).map Line.chars =
        (otherLines lineFeedText.toList).map Line.chars ∧
      engine plainText = .ok plainText := by
  obtain ⟨engine, hengine, hkept, hsame⟩ := other_lines_kept .empty
  have hformat : engine lineFeedText = .ok lineFeedOutput := by
    rw [← Except.ok.inj hengine]
    cbv
  refine ⟨engine, hengine, hformat, ?_, ?_⟩
  · exact (hkept _ _ hformat).2.mpr (by decide +kernel)
  · exact (hsame plainText (by decide +kernel)).mpr (by decide +kernel)

/-- The line feed alone is put back behind a line that ends in a carriage return and a line feed. -/
theorem carriage_return_is_lost :
    (¬ ∀ p engine input output, importOrder p = .ok engine → engine input = .ok output →
      (otherLines output.toList).map Line.chars = (otherLines input.toList).map Line.chars) ∧
    ¬ ∀ p engine input, importOrder p = .ok engine →
      (∀ line ∈ lines input.toList, isImport (trim line.content) = false) →
      engine input = .ok input := by
  have hformat : (ImportGroups.ofPreferences .empty).engine "x\r\n" = .ok "x\n" := by cbv
  constructor
  · intro hclaim
    have hkept := hclaim .empty _ "x\r\n" "x\n" rfl hformat
    exact absurd hkept (by decide +kernel)
  · intro hclaim
    have hsame := hclaim .empty _ "x\r\n" rfl (by decide +kernel)
    rw [hformat] at hsame
    exact absurd (Attempt.ok.inj hsame) (by decide)

end FormatterModules.Engine.ImportLine
