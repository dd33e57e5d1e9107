import FormatterModules.Engine.Whitespace
import FormatterModules.Proofs.Text.MappedLines

namespace FormatterModules.Engine

open Text

theorem guarded_ofList {fits : List Char → Bool} {text : List Char} (h : fits text = true)
    (format : List Char → List Char) :
    guarded fits format (String.ofList text) = .ok (String.ofList (format text)) := by
  rw [guarded, String.toList_ofList, if_pos h]

/-- The second text is the first without the blanks at its end, of which none is left. -/
structure Strips (text stripped : List Char) : Prop where
  exists_blanks : ∃ blanks, text = stripped ++ blanks ∧ ∀ c ∈ blanks, isBlank c = true
  last_not_blank : ∀ c, stripped.getLast? = some c → isBlank c = false

theorem strips_trimEnd (s : List Char) : Strips s (trimEnd s) :=
  ⟨exists_trimEnd_append s, fun _ => isBlank_last_trimEnd⟩

theorem isWhole_mapContent_trimEnd {line : Line} (h : line.IsWhole) :
    (line.mapContent trimEnd).IsWhole := by
  refine ⟨fun hlf => h.lf_free ((trimEnd_prefix_self line.content).subset hlf), fun _ hreturn => ?_⟩
  exact absurd (isBlank_last_trimEnd hreturn) (by decide)

theorem isWhole_stripped {text : List Char} :
    ∀ line ∈ lines text, (line.mapContent trimEnd).IsWhole :=
  fun _ hline => isWhole_mapContent_trimEnd (isWhole_of_mem_lines hline)

theorem stripLines_stripLines (text : List Char) : stripLines (stripLines text) = stripLines text := by
  have hsame : trimEnd ∘ trimEnd = trimEnd := funext trimEnd_trimEnd
  rw [stripLines, stripLines, mapContents_mapContents isWhole_stripped rfl, hsame]

structure StripsLine (line stripped : Line) : Prop where
  content_strips : Strips line.content stripped.content
  terminator_eq : stripped.terminator = line.terminator

theorem last_not_blank_of_mem {text : List Char} {line : Line} (h : line ∈ lines (stripLines text))
    {c : Char} (hc : line.content.getLast? = some c) : isBlank c = false := by
  obtain ⟨source, -, rfl⟩ :=
    List.mem_map.mp (mem_map_of_mem_lines_mapContents isWhole_stripped h)
  exact isBlank_last_trimEnd hc

/-- The output has the lines of the input, each without the blanks at its end and ended as before. A
last line of blanks is no line then. No line of the output ends in a blank, and the output is its own
output. -/
theorem line_ends_stripped (p : Preferences) :
    ∃ engine, trailingWhitespace p = .ok engine ∧ ∀ input, ∃ output stripped,
      engine input = .ok output ∧
      List.Forall₂ StripsLine (lines input.toList) stripped ∧
      output.toList = unlines stripped ∧
      (lines output.toList = stripped ∨ stripped = lines output.toList ++ [⟨[], .none⟩]) ∧
      (∀ line ∈ lines output.toList, ∀ c, line.content.getLast? = some c → isBlank c = false) ∧
      engine output = .ok output := by
  refine ⟨_, rfl, fun input => ⟨String.ofList (stripLines input.toList),
    (lines input.toList).map (Line.mapContent trimEnd), rfl, ?_, ?_, ?_, ?_, ?_⟩⟩
  · exact forall₂_map_mapContent fun line _ => ⟨strips_trimEnd line.content, rfl⟩
  · rw [String.toList_ofList, stripLines, mapContents_eq]
  · rw [String.toList_ofList]
    exact lines_mapContents isWhole_stripped
  · rw [String.toList_ofList]
    exact fun line hline c hc => last_not_blank_of_mem hline hc
  · rw [ofTotal, guarded_ofList rfl, stripLines_stripLines]

def raggedText : String := "a \r\r\n\tb\u00a0\u3000\n \x0b\r\n\u2028\nc\r d\n \t"

def strippedText : String := "a\r\n\tb\n\r\n\nc\r d\n"

theorem line_ends_stripped_ragged :
    ∃ engine, trailingWhitespace .empty = .ok engine ∧ engine raggedText = .ok strippedText ∧
      ⟨['c', '\r', ' ', 'd'], .lf⟩ ∈ lines strippedText.toList ∧ isBlank 'd' = false ∧
      engine strippedText = .ok strippedText := by
  obtain ⟨engine, hengine, hall⟩ := line_ends_stripped .empty
  have hformat : engine raggedText = .ok strippedText := by
    rw [← Except.ok.inj hengine]
    decide +kernel
  obtain ⟨output, stripped, houtput, -, -, -, hlast, hagain⟩ := hall raggedText
  obtain rfl : strippedText = output := Attempt.ok.inj (hformat.symm.trans houtput)
  have hline : ⟨['c', '\r', ' ', 'd'], .lf⟩ ∈ lines strippedText.toList := by decide +kernel
  exact ⟨engine, hengine, hformat, hline, hlast _ hline 'd' rfl, hagain⟩

end FormatterModules.Engine
