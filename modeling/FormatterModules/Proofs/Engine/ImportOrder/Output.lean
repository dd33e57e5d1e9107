import FormatterModules.Proofs.Engine.ImportOrder.Blocks
import FormatterModules.Proofs.Text.Lines

namespace FormatterModules.Engine.ImportLine

open Text

variable {groups : ImportGroups} {text out : List Char}

theorem format_eq_ok_iff :
    groups.format text = .ok out ↔
      Complete (contents text) ∧
        ['\n'].intercalate (arranged groups (contents text)) ++
          (if text.getLast? == some '\n' then ['\n'] else []) = out := by
  have harrange := arrange_eq_ok_iff groups 1 [] (contents text)
  change (groups.arrange 1 [] (contents text)).map _ = .ok out ↔ _
  cases h : groups.arrange 1 [] (contents text) with
  | error e =>
    have hcomplete : ¬ Complete (contents text) := fun hc => by
      have hok := (harrange _).mpr ⟨hc, rfl⟩
      rw [h] at hok
      cases hok
    simp [Except.map, hcomplete]
  | ok result =>
    obtain ⟨hcomplete, rfl⟩ := (harrange result).mp h
    simp [Except.map, hcomplete, arranged]

/-- The engine formats a text if and only if all its imports are complete. -/
theorem exists_format_iff : (∃ out, groups.format text = .ok out) ↔ Complete (contents text) := by
  simp only [format_eq_ok_iff]
  exact ⟨fun ⟨_, h, _⟩ => h, fun h => ⟨_, h, rfl⟩⟩

theorem engine_eq_ok_iff {input output : String} :
    groups.engine input = .ok output ↔
      ∃ out, groups.format input.toList = .ok out ∧ String.ofList out = output := by
  unfold ImportGroups.engine
  cases groups.format input.toList <;> simp [Except.map, Attempt.ofExcept]

theorem exists_engine_iff {input : String} :
    (∃ output, groups.engine input = .ok output) ↔
      ∃ out, groups.format input.toList = .ok out := by
  simp [engine_eq_ok_iff]

theorem lf_free_of_mem_arranged {parts : List (List Char)} {last s : List Char}
    (hcut : IsCut text parts last) (h : s ∈ arranged groups (contents text)) : '\n' ∉ s := by
  obtain ⟨l, hl, rfl⟩ := List.mem_map.mp (mem_arranged.mp h)
  intro hlf
  refine hcut.lf_free_of_mem_contents hl ?_
  unfold tidy at hlf
  split at hlf
  · exact mem_of_mem_trim hlf
  · exact hlf

theorem exists_isCut_others {parts : List (List Char)} {last : List Char}
    (hcut : IsCut text parts last) (h : groups.format text = .ok out) :
    ∃ written final, IsCut out written final ∧
      arranged groups (contents text) = written ++ remainder final ∧ (final = [] ↔ last = []) ∧
      others written = others (parts.map dropReturn) ∧
      others (remainder final) = others (remainder last) := by
  obtain ⟨-, rfl⟩ := format_eq_ok_iff.mp h
  have hends := hcut.getLast?_eq_lf_iff
  have hfree : ∀ s ∈ arranged groups (contents text), '\n' ∉ s :=
    fun s hs => lf_free_of_mem_arranged hcut hs
  have hcontents := hcut.contents_eq
  by_cases hlast : last = []
  · have hlines : contents text = parts.map dropReturn := by
      rw [hcontents, hlast]
      exact List.append_nil _
    refine ⟨arranged groups (contents text), [], ⟨?_, hfree, List.not_mem_nil⟩,
      (List.append_nil _).symm, by simp [hlast], ?_, by rw [hlast]⟩
    · by_cases hparts : parts = []
      · have hnone : contents text = [] := by rw [hlines, hparts]; rfl
        have hnot : text.getLast? ≠ some '\n' := fun he => (hends.mp he).1 hparts
        simp [hnone, hnot, arranged, blocks, closeRun, terminate, List.intercalate]
      · have hne : arranged groups (contents text) ≠ [] := by
          obtain ⟨s, hs⟩ := List.exists_mem_of_ne_nil parts hparts
          have hmem : tidy (dropReturn s) ∈ arranged groups (contents text) := by
            rw [mem_arranged, hlines]
            exact List.mem_map_of_mem (List.mem_map_of_mem hs)
          exact List.ne_nil_of_mem hmem
        simp [hends.mpr ⟨hparts, hlast⟩, intercalate_append_lf hne]
    · rw [others_arranged, hlines]
  · have hlines : contents text = parts.map dropReturn ++ [last] := by
      rw [hcontents, remainder, if_neg hlast]
    obtain ⟨written, final, harranged, hfinal, hwritten, hsame⟩ :=
      exists_arranged_concat groups (parts.map dropReturn) hlast
    rw [← hlines] at harranged
    rw [harranged] at hfree
    have hnot : text.getLast? ≠ some '\n' := fun he => hlast (hends.mp he).2
    have hremainder : remainder final = [final] := if_neg hfinal
    refine ⟨written, final, ⟨?_, fun s hs => hfree s (by simp [hs]), hfree final (by simp)⟩, ?_,
      by simp [hlast, hfinal], hwritten, ?_⟩
    · simp [harranged, intercalate_concat, hnot]
    · rw [harranged, hremainder]
    · rw [hremainder, hsame, remainder, if_neg hlast]

theorem exists_isCut_format {parts : List (List Char)} {last : List Char}
    (hcut : IsCut text parts last) (h : groups.format text = .ok out) :
    ∃ written final, IsCut out written final ∧
      arranged groups (contents text) = written ++ remainder final ∧ (final = [] ↔ last = []) ∧
      ∀ l, isImport (trim l) = false → (l ∈ written ↔ l ∈ parts.map dropReturn) := by
  obtain ⟨written, final, hout, harranged, hfinal, hwritten, -⟩ := exists_isCut_others hcut h
  refine ⟨written, final, hout, harranged, hfinal, fun l hl => ?_⟩
  have hmem := congrArg (l ∈ ·) hwritten
  simpa only [mem_others, hl, and_true, eq_iff_iff] using hmem

theorem dropReturn_of_import {line : List Char} (htidy : tidy line = line)
    (h : isImport (trim line) = true) : dropReturn line = line := by
  rw [tidy, if_pos h] at htidy
  refine dropReturn_eq_self_iff.mpr fun hlast => ?_
  rw [← htidy] at hlast
  exact absurd (isBlank_last_trim hlast) (by decide)

theorem respelled_dropReturn {line : List Char} (htidy : tidy line = line) :
    Respelled line (dropReturn line) := by
  by_cases h : isImport (trim line) = true
  · exact .inl (dropReturn_of_import htidy h)
  · exact .inr ⟨eq_false_of_ne_true h, trim_dropReturn line⟩

theorem respelled_contents {written : List (List Char)} {final : List Char}
    (hcut : IsCut out written final)
    (harranged : arranged groups (contents text) = written ++ remainder final) :
    List.Forall₂ Respelled (arranged groups (contents text)) (contents out) := by
  have htidy : ∀ line ∈ written, tidy line = line := fun line hline =>
    tidy_of_mem_arranged (harranged ▸ List.mem_append_left _ hline)
  rw [harranged, hcut.contents_eq]
  refine List.rel_append ?_ (List.forall₂_same.mpr fun _ _ => .inl rfl)
  rw [List.forall₂_map_right_iff]
  exact List.forall₂_same.mpr fun line hline => respelled_dropReturn (htidy line hline)

theorem runs_format (h : groups.format text = .ok out) :
    runs (contents out) = (runs (contents text)).map (sortRun groups) := by
  obtain ⟨hcomplete, -⟩ := format_eq_ok_iff.mp h
  obtain ⟨parts, last, hcut⟩ := exists_isCut text
  obtain ⟨written, final, hwritten, harranged, -⟩ := exists_isCut_format hcut h
  exact (arranged_respelled hcomplete (respelled_contents hwritten harranged)).2.2

/-- The engine formats its own output, and drops a carriage return before each line feed of it. -/
theorem exists_format_again {written : List (List Char)} {final : List Char}
    (h : groups.format text = .ok out) (hcut : IsCut out written final)
    (harranged : arranged groups (contents text) = written ++ remainder final) :
    ∃ again, groups.format out = .ok again ∧ IsCut again (written.map dropReturn) final := by
  obtain ⟨hcomplete, -⟩ := format_eq_ok_iff.mp h
  obtain ⟨hcomplete', hself, -⟩ :=
    arranged_respelled hcomplete (respelled_contents hcut harranged)
  obtain ⟨again, hagain⟩ := exists_format_iff.mpr hcomplete'
  obtain ⟨written', final', hcut', harranged', hfinal, -⟩ := exists_isCut_format hcut hagain
  rw [hself, hcut.contents_eq] at harranged'
  obtain ⟨rfl, rfl⟩ := append_remainder_injective hfinal.symm harranged'
  exact ⟨again, hagain, hcut'⟩

end FormatterModules.Engine.ImportLine
