import FormatterModules.Proofs.Engine.Indent.Columns

namespace FormatterModules.Engine.Indentation

open Text

/-- The second line is the first with its margin in the style: spaces alone, or tabs and fewer spaces
behind them than a tab has columns. The columns are the same, and so is all that follows them. -/
structure Realigns (i : Indentation) (line realigned : Line) : Prop where
  terminator_eq : realigned.terminator = line.terminator
  body_eq : body realigned.content = body line.content
  width_eq : width i.size realigned.content = width i.size line.content
  spaces : i.style = .spaces → '\t' ∉ leading realigned.content
  tabs : i.style = .tabs → ∃ tabs spaces,
    leading realigned.content = List.replicate tabs '\t' ++ List.replicate spaces ' ' ∧
      spaces < i.size

variable {i j : Indentation} {line : Line} {text : List Char}

theorem margin_of_spaces (h : i.style = .spaces) (n : Nat) : i.margin n = List.replicate n ' ' := by
  rw [margin, h]

theorem margin_of_tabs (h : i.style = .tabs) (n : Nat) :
    i.margin n = List.replicate (n / i.size) '\t' ++ List.replicate (n % i.size) ' ' := by
  rw [margin, h]

theorem realigns_mapContent (i : Indentation) (line : Line) :
    Realigns i line (line.mapContent i.realign) where
  terminator_eq := rfl
  body_eq := body_realign i line.content
  width_eq := width_realign i line.content
  spaces hstyle := by
    rw [Line.mapContent, leading_realign, margin_of_spaces hstyle]
    simp
  tabs hstyle := by
    rw [Line.mapContent, leading_realign, margin_of_tabs hstyle]
    exact ⟨_, _, rfl, Nat.mod_lt _ i.size_pos⟩

theorem realigns_lines (i : Indentation) (text : List Char) :
    List.Forall₂ (Realigns i) (lines text) (lines (i.format text)) := by
  rw [lines_format]
  exact forall₂_map_mapContent fun line _ => realigns_mapContent i line

/-- A text that was written in another style before comes to the same, also in the same style. All its
lines are there again with their columns and their bodies. This takes columns that can be counted, and
results that are no longer than texts can be. -/
theorem style_decides_margins (i j : Indentation) (same : i.size = j.size) (input : String)
    (hcolumns : ∀ line ∈ lines input.toList, width i.size line.content < columnBound)
    (hi : byteSize (i.format input.toList) ≤ maxByteSize)
    (hj : byteSize (j.format input.toList) ≤ maxByteSize) :
    ∃ between output, j.engine input = .ok between ∧ i.engine between = .ok output ∧
      i.engine input = .ok output ∧
      List.Forall₂ (Realigns i) (lines input.toList) (lines output.toList) := by
  refine ⟨String.ofList (j.format input.toList), String.ofList (i.format input.toList), ?_, ?_, ?_, ?_⟩
  · exact engine_eq_ok_iff.mpr ⟨same ▸ hcolumns, hj, String.toList_ofList⟩
  · rw [engine_eq_ok_iff, String.toList_ofList, String.toList_ofList, format_format same]
    refine ⟨?_, hi, rfl⟩
    rw [lines_format]
    refine List.forall_mem_map.mpr fun line hline => ?_
    rw [Line.mapContent, same, width_realign, ← same]
    exact hcolumns line hline
  · exact engine_eq_ok_iff.mpr ⟨hcolumns, hi, String.toList_ofList⟩
  · rw [String.toList_ofList]
    exact realigns_lines i input.toList

def spacesOfThree : Indentation := ⟨.spaces, 3, by decide⟩

def tabsOfThree : Indentation := ⟨.tabs, 3, by decide⟩

def mixedText : String := "\t  \tx\r\n \t\n\r\n    y\t\r"

def tabbedText : String := "\t\t  x\r\n\t \n\r\n\t y\t\r"

theorem style_decides_margins_mixed :
    tabsOfThree.size = spacesOfThree.size ∧
      (∀ line ∈ lines mixedText.toList, width 3 line.content < columnBound) ∧
      byteSize (tabsOfThree.format mixedText.toList) ≤ maxByteSize ∧
      byteSize (spacesOfThree.format mixedText.toList) ≤ maxByteSize ∧
      spacesOfThree.engine mixedText = .ok "        x\r\n    \n\r\n    y\t\r" ∧
      tabsOfThree.engine "        x\r\n    \n\r\n    y\t\r" = .ok tabbedText ∧
      List.Forall₂ (Realigns tabsOfThree) (lines mixedText.toList) (lines tabbedText.toList) := by
  have hcolumns : ∀ line ∈ lines mixedText.toList, width 3 line.content < columnBound := by
    decide +kernel
  have htabbed : byteSize (tabsOfThree.format mixedText.toList) ≤ maxByteSize := by decide +kernel
  have hspaced : byteSize (spacesOfThree.format mixedText.toList) ≤ maxByteSize := by decide +kernel
  obtain ⟨between, output, hbetween, hagain, houtput, hlines⟩ :=
    style_decides_margins tabsOfThree spacesOfThree rfl mixedText hcolumns htabbed hspaced
  have hspaces : spacesOfThree.engine mixedText =
      .ok "        x\r\n    \n\r\n    y\t\r" := by
    decide +kernel
  have htabs : tabsOfThree.engine mixedText = .ok tabbedText := by decide +kernel
  obtain rfl := Attempt.ok.inj (hspaces.symm.trans hbetween)
  obtain rfl := Attempt.ok.inj (htabs.symm.trans houtput)
  exact ⟨rfl, hcolumns, htabbed, hspaced, hspaces, hagain, hlines⟩

def largeSpaces : Indentation := ⟨.spaces, columnBound / 2, half_columnBound_pos⟩

theorem style_between_breaks_off :
    ¬ ∀ (i j : Indentation) (input : String), i.size = j.size →
      (∀ line ∈ lines input.toList, width i.size line.content < columnBound) →
      ∃ between output, j.engine input = .ok between ∧ i.engine between = .ok output ∧
        i.engine input = .ok output := by
  intro hclaim
  obtain ⟨between, output, hbetween, -, -⟩ :=
    hclaim largeTabs largeSpaces "\tx" rfl (by decide +kernel)
  have hbreaks : largeSpaces.engine "\tx" = .panicked := by decide +kernel
  cases hbreaks.symm.trans hbetween

end FormatterModules.Engine.Indentation
