import FormatterModules.Proofs.Engine.Chains
import FormatterModules.Proofs.Engine.Indent.Styles

namespace FormatterModules.Engine

open Text

/-- The text is no longer than texts can be, also with a line feed in place of the blanks at its
end. -/
structure Roomy (text : List Char) : Prop where
  whole : byteSize text ≤ maxByteSize
  trimmed : byteSize (trimEnd text) < maxByteSize

namespace Roomy

variable {text : List Char}

theorem of_lt (h : byteSize text < maxByteSize) : Roomy text :=
  ⟨h.le, (byteSize_le_of_isPrefix (trimEnd_prefix_self text)).trans_lt h⟩

theorem byteSize_stripLines_le (text : List Char) : byteSize (stripLines text) ≤ byteSize text := by
  have hsame : mapContents id text = text := by
    rw [mapContents_eq]
    exact (congrArg unlines (List.map_id (lines text))).trans (unlines_lines text)
  calc byteSize (stripLines text)
      ≤ byteSize (mapContents id text) :=
        byteSize_mapContents_le (fun s => byteSize_le_of_isPrefix (trimEnd_prefix_self s)) text
    _ = byteSize text := by rw [hsame]

theorem stripLines (h : Roomy text) : Roomy (stripLines text) := by
  refine ⟨(byteSize_stripLines_le text).trans h.whole, ?_⟩
  have hcomm : trimEnd (Engine.stripLines text) = Engine.stripLines (trimEnd text) :=
    keepsEnd_trimEnd.trimEnd_mapContents text
  rw [hcomm]
  exact (byteSize_stripLines_le _).trans_lt h.trimmed

theorem endLine (h : Roomy text) : Roomy (endLine text) := by
  by_cases hblank : trimEnd text = []
  · rw [endLine_of_blank hblank]
    exact ⟨Nat.zero_le _, by decide⟩
  · rw [endLine_of_ne_nil hblank]
    refine ⟨?_, ?_⟩
    · rw [byteSize_append]
      exact h.trimmed
    · rw [trimEnd_concat_blank (by decide), trimEnd_trimEnd]
      exact h.trimmed

end Roomy

namespace Indentation

variable {i : Indentation} {text s t : List Char} {parts : List (List Char)} {last : List Char}
  {size : Nat}

def Countable (i : Indentation) (text : List Char) : Prop :=
  ∀ line ∈ lines text, width i.size line.content < columnBound

theorem width_le_of_isPrefix (h : s <+: t) : width size s ≤ width size t := by
  have hleading : leading s <+: leading t := by
    obtain ⟨rest, rfl⟩ := h
    have hmargin : s.takeWhile isMargin <+: s := List.takeWhile_prefix isMargin
    rw [leading, leading, List.takeWhile_append]
    split
    · exact hmargin.trans (List.prefix_append s _)
    · exact List.prefix_rfl
  exact Nat.add_le_add (Nat.mul_le_mul_right _ (hleading.sublist.count_le _))
    (hleading.sublist.count_le _)

theorem width_dropReturn (size : Nat) (s : List Char) : width size (dropReturn s) = width size s := by
  unfold dropReturn
  split
  · next h =>
    obtain ⟨init, rfl⟩ := List.getLast?_eq_some_iff.mp h
    rw [List.dropLast_concat]
    refine width_congr ?_
    have hreturn : ['\r'].takeWhile isMargin = [] := rfl
    have hmargin : init.takeWhile isMargin <+: init := List.takeWhile_prefix isMargin
    rw [leading, leading, List.takeWhile_append, hreturn, List.append_nil]
    split
    · next hall => exact hmargin.eq_of_length hall
    · rfl
  · rfl

theorem countable_iff (h : IsCut text parts last) :
    i.Countable text ↔
      (∀ s ∈ parts, width i.size s < columnBound) ∧ width i.size last < columnBound := by
  have hlast : (∀ s ∈ remainder last, width i.size s < columnBound) ↔
      width i.size last < columnBound := by
    unfold remainder
    split
    · next hnil => simp [hnil, width_nil, columnBound]
    · simp
  rw [Countable, ← List.forall_mem_map (P := fun s => width i.size s < columnBound)]
  change (∀ s ∈ contents text, width i.size s < columnBound) ↔ _
  rw [h.contents_eq, List.forall_mem_append, hlast, List.forall_mem_map]
  simp only [width_dropReturn]

theorem countable_concat_lf : i.Countable (text ++ ['\n']) ↔ i.Countable text := by
  obtain ⟨parts, last, hcut⟩ := exists_isCut text
  rw [countable_iff hcut.concat_lf, countable_iff hcut, List.forall_mem_append,
    List.forall_mem_singleton, width_nil]
  exact and_iff_left (by decide)

theorem Countable.of_concat {c : Char} (h : i.Countable (text ++ [c])) : i.Countable text := by
  by_cases hlf : c = '\n'
  · rwa [hlf, countable_concat_lf] at h
  · obtain ⟨parts, last, hcut⟩ := exists_isCut text
    rw [countable_iff (hcut.concat hlf)] at h
    rw [countable_iff hcut]
    exact ⟨h.1, (width_le_of_isPrefix (List.prefix_append last [c])).trans_lt h.2⟩

theorem Countable.of_isPrefix (h : i.Countable t) (hs : s <+: t) : i.Countable s := by
  obtain ⟨rest, rfl⟩ := hs
  -- A line feed that is taken off the end may be that of a carriage return, so one character goes at
  -- a time.
  induction rest using List.reverseRecOn with
  | nil => rwa [List.append_nil] at h
  | append_singleton rest c ih =>
    rw [← List.append_assoc] at h
    exact ih h.of_concat

theorem Countable.endLine (h : i.Countable text) : i.Countable (endLine text) := by
  by_cases hblank : trimEnd text = []
  · rw [endLine_of_blank hblank]
    exact fun _ hline => nomatch hline
  · rw [endLine_of_ne_nil hblank, countable_concat_lf]
    exact h.of_isPrefix (trimEnd_prefix_self text)

theorem Countable.stripLines (h : i.Countable text) : i.Countable (stripLines text) := by
  intro line hline
  obtain ⟨source, hsource, rfl⟩ :=
    List.mem_map.mp (mem_map_of_mem_lines_mapContents isWhole_stripped hline)
  exact (width_le_of_isPrefix (trimEnd_prefix_self source.content)).trans_lt (h source hsource)

theorem Countable.format (h : i.Countable text) : i.Countable (i.format text) := by
  intro line hline
  rw [lines_format] at hline
  obtain ⟨source, hsource, rfl⟩ := List.mem_map.mp hline
  rw [Line.mapContent, width_realign]
  exact h source hsource

/-- None of the three engines breaks off on the text, or on what the others make of it. -/
structure Manageable (i : Indentation) (text : List Char) : Prop where
  countable : i.Countable text
  roomy : Roomy text
  realigned : Roomy (i.format text)

end Indentation

theorem blankFormats_carried (i : Indentation) {strip ends : Engine} {q r : Preferences}
    (hstrip : trailingWhitespace q = .ok strip) (hends : endWithNewline r = .ok ends) :
    Carried [strip, ends, i.engine] (blankFormats i) i.Manageable := by
  obtain rfl := Except.ok.inj hstrip
  obtain rfl := Except.ok.inj hends
  have hindependent := independent_blankFormats i
  have hcomm := fun f hf => hindependent.comm i.format (by simp [blankFormats]) f hf
  constructor
  · intro f hf text h
    have hformat := hcomm f hf text
    simp only [blankFormats, List.mem_cons, List.not_mem_nil, or_false] at hf
    obtain rfl | rfl | rfl := hf
    · exact ⟨h.countable.stripLines, h.roomy.stripLines, hformat ▸ h.realigned.stripLines⟩
    · exact ⟨h.countable.endLine, h.roomy.endLine, hformat ▸ h.realigned.endLine⟩
    · exact ⟨h.countable.format, h.realigned, (Indentation.format_format rfl text).symm ▸ h.realigned⟩
  · intro e he
    simp only [List.mem_cons, List.not_mem_nil, or_false] at he
    obtain rfl | rfl | rfl := he
    · exact ⟨stripLines, by simp [blankFormats], fun text _ => guarded_ofList rfl stripLines⟩
    · exact ⟨endLine, by simp [blankFormats], fun text h =>
        guarded_ofList (decide_eq_true h.roomy.endLine.whole) endLine⟩
    · exact ⟨i.format, by simp [blankFormats], fun text h =>
        guarded_ofList (Indentation.fits_iff.mpr ⟨h.countable, h.realigned.whole⟩) i.format⟩

/-- The engines that strip the lines, that end the text and that write the margins refuse no text.
Chains of them come to the same in whatever order they stand and how often, and none of the engines in
a chain changes what the chain has come to. This takes columns that can be counted, and room for a final
line feed in the text, both as it is and with its margins written anew. -/
theorem blank_engines_commute (p q r : Preferences) (i : Indentation)
    (h : Indentation.ofPreferences p = .ok i) :
    ∃ strip ends margins, trailingWhitespace q = .ok strip ∧ endWithNewline r = .ok ends ∧
      indent p = .ok margins ∧
      ∀ chain other : List Engine, chain ⊆ [strip, ends, margins] →
        (∀ e, e ∈ chain ↔ e ∈ other) → ∀ input : String,
          (∀ line ∈ lines input.toList, Indentation.width i.size line.content <
            Indentation.columnBound) →
          byteSize input.toList < maxByteSize → byteSize (i.format input.toList) < maxByteSize →
          ∃ output, runAll chain input = .ok output ∧ runAll other input = .ok output ∧
            ∀ e ∈ chain, e output = .ok output := by
  refine ⟨_, _, _, rfl, rfl, Indentation.indent_of_ofPreferences h, ?_⟩
  intro chain other hchain hsame input hcolumns hsize hrealigned
  have hinput : i.Manageable input.toList := ⟨hcolumns, .of_lt hsize, .of_lt hrealigned⟩
  have hcarried := blankFormats_carried i (q := q) (r := r) rfl rfl
  have hresult := hcarried.runAll_eq (independent_blankFormats i) hchain hsame hinput
  rwa [String.ofList_toList] at hresult

def untidyText : String := "    a \t\r\n \u00a0\r\n\t \n   b\u2003\r \n \n\u3000"

def tidyText : String := "\t a\r\n\r\n\n\tb\n"

theorem blank_engines_commute_untidy :
    ∃ strip ends margins, Indentation.ofPreferences (Indentation.asking .tabs 3) =
        .ok Indentation.tabsOfThree ∧
      trailingWhitespace .empty = .ok strip ∧ endWithNewline .empty = .ok ends ∧
      indent (Indentation.asking .tabs 3) = .ok margins ∧
      byteSize untidyText.toList < maxByteSize ∧
      byteSize (Indentation.tabsOfThree.format untidyText.toList) < maxByteSize ∧
      runAll [margins, ends, strip] untidyText = .ok tidyText ∧
      runAll [strip, margins, ends, strip] untidyText = .ok tidyText ∧
      strip tidyText = .ok tidyText ∧ ends tidyText = .ok tidyText ∧
      margins tidyText = .ok tidyText := by
  have hasked : Indentation.ofPreferences (Indentation.asking .tabs 3) =
      .ok Indentation.tabsOfThree :=
    Indentation.ofPreferences_asking (i := Indentation.tabsOfThree) (by decide)
  have hsize : byteSize untidyText.toList < maxByteSize := by decide +kernel
  have hrealigned : byteSize (Indentation.tabsOfThree.format untidyText.toList) < maxByteSize := by
    decide +kernel
  obtain ⟨strip, ends, margins, hstrip, hends, hmargins, hchains⟩ :=
    blank_engines_commute _ .empty .empty _ hasked
  obtain ⟨output, houtput, hother, hfixed⟩ := hchains [margins, ends, strip]
    [strip, margins, ends, strip] (by simp) (by grind) untidyText (by decide +kernel) hsize hrealigned
  have hformat : runAll [margins, ends, strip] untidyText = .ok tidyText := by
    rw [← Except.ok.inj hstrip, ← Except.ok.inj hends,
      Except.ok.inj (hmargins.symm.trans (Indentation.indent_of_ofPreferences hasked))]
    decide +kernel
  obtain rfl : tidyText = output := Attempt.ok.inj (hformat.symm.trans houtput)
  exact ⟨strip, ends, margins, hasked, hstrip, hends, hmargins, hsize, hrealigned, hformat, hother,
    hfixed strip (by simp), hfixed ends (by simp), hfixed margins (by simp)⟩

/-- A margin that is stripped in the end must be written first, if it is not stripped before. -/
theorem blank_engines_break_off :
    ¬ ∀ (p q : Preferences) (i : Indentation) (strip margins : Engine) (input : String),
      Indentation.ofPreferences p = .ok i → indent p = .ok margins →
      trailingWhitespace q = .ok strip →
      (∀ line ∈ lines input.toList, Indentation.width i.size line.content <
        Indentation.columnBound) →
      runAll [margins, strip] input = runAll [strip, margins] input := by
  intro hclaim
  have hasked : Indentation.ofPreferences
      (Indentation.asking .spaces (Indentation.columnBound / 2)) = .ok Indentation.largeSpaces :=
    Indentation.ofPreferences_asking (i := Indentation.largeSpaces) (by decide)
  have hsame := hclaim _ .empty _ _ _ "\t" hasked (Indentation.indent_of_ofPreferences hasked) rfl
    (by decide +kernel)
  have hfirst : runAll [Indentation.largeSpaces.engine, ofTotal stripLines] "\t" = .panicked := by
    decide +kernel
  have hlast : runAll [ofTotal stripLines, Indentation.largeSpaces.engine] "\t" = .ok "" := by
    decide +kernel
  cases hfirst.symm.trans (hsame.trans hlast)

end FormatterModules.Engine
