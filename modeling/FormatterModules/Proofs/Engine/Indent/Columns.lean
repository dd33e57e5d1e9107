import FormatterModules.Proofs.Engine.Indent.Margins
import FormatterModules.Proofs.Ordered.Map
import FormatterModules.Proofs.Text.Decimal

namespace FormatterModules.Engine.Indentation

open Text

variable {i : Indentation} {p : Preferences} {style : IndentStyle} {raw? : Option String}

theorem size_lt_of_readSize (h : readSize style raw? = .ok i) : i.size < columnBound := by
  unfold readSize at h
  split at h
  · cases h
    exact (by decide : defaultSize < columnBound)
  · split at h
    · next n hread =>
      cases h
      obtain ⟨-, -, -, hbound⟩ := readBelow?_eq_some_iff.mp hread
      exact hbound
    · cases h

theorem size_lt_of_ofPreferences (h : ofPreferences p = .ok i) : i.size < columnBound := by
  unfold ofPreferences at h
  split at h
  · cases h
  · exact size_lt_of_readSize h

def styleName : IndentStyle → String
  | .spaces => "spaces"
  | .tabs => "tabs"

def asking (style : IndentStyle) (size : Nat) : Preferences :=
  (Preferences.empty.insert "indent.style" (styleName style)).insert "indent.size"
    (String.ofList (decimal size))

theorem readStyle_styleName (style : IndentStyle) : readStyle (some (styleName style)) = .ok style := by
  cases style <;> rfl

theorem readSize_decimal (h : i.size < columnBound) :
    readSize i.style (some (String.ofList (decimal i.size))) = .ok i := by
  obtain ⟨style, size, hpos⟩ := i
  obtain ⟨n, rfl⟩ := Nat.exists_eq_succ_of_ne_zero hpos.ne'
  rw [readSize]
  dsimp only
  rw [String.toList_ofList, readBelow?_decimal h]

theorem ofPreferences_asking (h : i.size < columnBound) :
    ofPreferences (asking i.style i.size) = .ok i := by
  have hstyle : (asking i.style i.size).get? "indent.style" = some (styleName i.style) := by
    rw [asking, Preferences.get?, Preferences.insert, OrderedMap.get?_insert, if_neg (by decide),
      Preferences.insert, OrderedMap.get?_insert, if_pos rfl]
  have hsize : (asking i.style i.size).get? "indent.size" =
      some (String.ofList (decimal i.size)) := by
    rw [asking, Preferences.get?, Preferences.insert, OrderedMap.get?_insert, if_pos rfl]
  rw [ofPreferences, hstyle, hsize, readStyle_styleName]
  exact readSize_decimal h

theorem exists_ofPreferences_iff : (∃ p, ofPreferences p = .ok i) ↔ i.size < columnBound :=
  ⟨fun ⟨_, hp⟩ => size_lt_of_ofPreferences hp, fun h => ⟨_, ofPreferences_asking h⟩⟩

theorem indent_of_ofPreferences (h : ofPreferences p = .ok i) : indent p = .ok i.engine := by
  rw [indent, h]
  rfl

/-- Tabs can be given every size that is a word, and no other. The engine breaks off if and only if the
columns of some line are not a word, or what it would write is longer than texts can be. Otherwise all
lines are written with their columns, their bodies and their ends. -/
theorem columns_kept_iff_fit (i : Indentation) :
    ((∃ p, ofPreferences p = .ok i) ↔ i.size < columnBound) ∧
    ∀ p, ofPreferences p = .ok i → ∃ engine, indent p = .ok engine ∧ ∀ input,
      (engine input = .panicked ↔
        (∃ line ∈ lines input.toList, columnBound ≤ width i.size line.content) ∨
          maxByteSize < byteSize (i.format input.toList)) ∧
      (engine input ≠ .panicked → ∃ output, engine input = .ok output ∧
        List.Forall₂ (fun line line' => line'.terminator = line.terminator ∧
          body line'.content = body line.content ∧
          width i.size line'.content = width i.size line.content)
          (lines input.toList) (lines output.toList)) := by
  refine ⟨exists_ofPreferences_iff, fun p haccepted => ?_⟩
  refine ⟨_, indent_of_ofPreferences haccepted, fun input => ⟨?_, fun hends => ?_⟩⟩
  · rw [engine_eq_panicked_iff, not_and_or, Nat.not_le]
    push Not
    rfl
  · obtain ⟨hcolumns, hsize⟩ := not_not.mp (engine_eq_panicked_iff.not.mp hends)
    refine ⟨String.ofList (i.format input.toList),
      engine_eq_ok_iff.mpr ⟨hcolumns, hsize, String.toList_ofList⟩, ?_⟩
    rw [String.toList_ofList, lines_format]
    exact forall₂_map_mapContent fun line _ =>
      ⟨rfl, body_realign i line.content, width_realign i line.content⟩

theorem half_columnBound_pos : 0 < columnBound / 2 := by decide

def largeTabs : Indentation := ⟨.tabs, columnBound / 2, half_columnBound_pos⟩

theorem ofPreferences_largeTabs : ofPreferences (asking .tabs (columnBound / 2)) = .ok largeTabs :=
  ofPreferences_asking (i := largeTabs) (by decide)

theorem columns_kept_iff_fit_large :
    ∃ engine, ofPreferences (asking .tabs (columnBound / 2)) = .ok largeTabs ∧
      indent (asking .tabs (columnBound / 2)) = .ok engine ∧
      engine " \t x\r\n  \t" = .ok "\t  x\r\n\t  " ∧
      List.Forall₂ (fun line line' => width (columnBound / 2) line'.content =
        width (columnBound / 2) line.content)
        (lines " \t x\r\n  \t".toList) (lines "\t  x\r\n\t  ".toList) ∧
      engine "\t\tx" = .panicked := by
  obtain ⟨-, hall⟩ := columns_kept_iff_fit largeTabs
  obtain ⟨engine, hengine, hinput⟩ := hall _ ofPreferences_largeTabs
  obtain rfl : engine = largeTabs.engine :=
    Except.ok.inj (hengine.symm.trans (indent_of_ofPreferences ofPreferences_largeTabs))
  have hformat : largeTabs.engine " \t x\r\n  \t" = .ok "\t  x\r\n\t  " := by decide +kernel
  have hbreaks : largeTabs.engine "\t\tx" = .panicked :=
    (hinput "\t\tx").1.mpr (.inl ⟨⟨['\t', '\t', 'x'], .none⟩, by decide, by decide⟩)
  obtain ⟨output, houtput, hkept⟩ := (hinput " \t x\r\n  \t").2 (by simp [hformat])
  obtain rfl := Attempt.ok.inj (hformat.symm.trans houtput)
  exact ⟨_, ofPreferences_largeTabs, hengine, hformat, hkept.imp fun _ _ h => h.2.2, hbreaks⟩

/-- The columns of two tabs of this size cannot be counted. -/
theorem columns_overflow :
    (¬ ∀ p i input, ofPreferences p = .ok i →
      ∀ line ∈ lines (String.toList input), width i.size line.content < columnBound) ∧
    ¬ ∀ p i engine input, ofPreferences p = .ok i → indent p = .ok engine →
      ∃ output, engine input = .ok output ∧
        (lines output.toList).map (fun line => width i.size line.content) =
          (lines input.toList).map (fun line => width i.size line.content) := by
  constructor
  · intro hclaim
    have hbound := hclaim _ _ "\t\tx" ofPreferences_largeTabs ⟨['\t', '\t', 'x'], .none⟩
    exact absurd (hbound (by decide)) (by decide)
  · intro hclaim
    obtain ⟨output, houtput, -⟩ := hclaim _ _ _ "\t\tx" ofPreferences_largeTabs
      (indent_of_ofPreferences ofPreferences_largeTabs)
    have hbreaks : largeTabs.engine "\t\tx" = .panicked := by decide +kernel
    cases hbreaks.symm.trans houtput

end FormatterModules.Engine.Indentation
