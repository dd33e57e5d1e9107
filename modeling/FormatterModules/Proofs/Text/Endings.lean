import FormatterModules.Proofs.Text.MappedLines

namespace FormatterModules.Text

variable {f : List Char → List Char} {s t text : List Char} {c : Char}

theorem trimEnd_eq_nil_iff : trimEnd s = [] ↔ ∀ c ∈ s, isBlank c = true := by
  rw [trimEnd_eq, List.rdropWhile_eq_nil_iff]

theorem trimEnd_concat_blank (h : isBlank c = true) : trimEnd (s ++ [c]) = trimEnd s :=
  List.rdropWhile_concat_pos isBlank s c h

theorem trimEnd_append_blanks (h : ∀ c ∈ t, isBlank c = true) (s : List Char) :
    trimEnd (s ++ t) = trimEnd s := by
  induction t using List.reverseRecOn with
  | nil => rw [List.append_nil]
  | append_singleton t c ih =>
    obtain ⟨ht, hc⟩ := List.forall_mem_append.mp h
    rw [← List.append_assoc, trimEnd_concat_blank (hc c (List.mem_singleton_self c)), ih ht]

theorem trimEnd_append_of_ne_nil (h : trimEnd t ≠ []) (s : List Char) :
    trimEnd (s ++ t) = s ++ trimEnd t := by
  have hrest : (t.reverse.dropWhile isBlank).isEmpty = false := by
    rw [List.isEmpty_eq_false_iff]
    exact fun hnil => h (by rw [trimEnd, hnil, List.reverse_nil])
  rw [trimEnd, List.reverse_append, List.dropWhile_append, hrest, if_neg Bool.false_ne_true,
    List.reverse_append, List.reverse_reverse]
  rfl

theorem trimEnd_append_congr (h : trimEnd s = trimEnd t) (before : List Char) :
    trimEnd (before ++ s) = trimEnd (before ++ t) := by
  by_cases hs : trimEnd s = []
  · rw [trimEnd_append_blanks (trimEnd_eq_nil_iff.mp hs),
      trimEnd_append_blanks (trimEnd_eq_nil_iff.mp (h ▸ hs))]
  · rw [trimEnd_append_of_ne_nil hs, trimEnd_append_of_ne_nil (h ▸ hs), h]

theorem trimEnd_dropReturn (s : List Char) : trimEnd (dropReturn s) = trimEnd s := by
  unfold dropReturn
  split
  · next h =>
    obtain ⟨init, rfl⟩ := List.getLast?_eq_some_iff.mp h
    rw [List.dropLast_concat, trimEnd_concat_blank (by decide)]
  · rfl

theorem Terminator.isBlank_of_mem_chars (e : Terminator) : ∀ c ∈ e.chars, isBlank c = true := by
  cases e with
  | crlf => exact List.forall_mem_cons.mpr ⟨by decide, List.forall_mem_singleton.mpr (by decide)⟩
  | lf => exact List.forall_mem_singleton.mpr (by decide)
  | none => exact List.forall_mem_nil _

/-- The change of a line and the loss of the blanks at its end can change places. Nothing but blanks
becomes blank. -/
structure KeepsEnd (f : List Char → List Char) : Prop where
  trimEnd_apply : ∀ s, trimEnd (f s) = f (trimEnd s)
  eq_nil_iff : ∀ s, trimEnd (f s) = [] ↔ trimEnd s = []

theorem KeepsEnd.apply_nil (h : KeepsEnd f) : f [] = [] :=
  (h.trimEnd_apply []).symm.trans ((h.eq_nil_iff []).mpr rfl)

namespace IsCut

variable {parts : List (List Char)} {last : List Char}

/-- The lines before the last line feed are changed without regard to what stands behind it. -/
theorem mapContents_eq (h : IsCut text parts last) (hnil : f [] = []) :
    mapContents f text = unlines ((parts.map Line.closed).map (Line.mapContent f)) ++ f last := by
  have hlast : unlines (((remainder last).map Line.last).map (Line.mapContent f)) = f last := by
    unfold remainder
    split
    · next he => rw [he, hnil]; rfl
    · rw [List.map_singleton, List.map_singleton, unlines_singleton]
      exact List.append_nil (f last)
  rw [Text.mapContents_eq, h.lines_eq, List.map_append, unlines_append, hlast]

theorem last_trimmed (h : IsCut text parts last) (htrimmed : trimEnd text = text) (hne : text ≠ []) :
    trimEnd last = last ∧ last ≠ [] := by
  rw [trimEnd_eq_self_iff] at htrimmed
  have hlast : last ≠ [] := by
    rintro rfl
    have hparts : parts ≠ [] := by
      rintro rfl
      exact hne h.text_eq
    exact absurd (htrimmed '\n' (h.getLast?_eq_lf_iff.mpr ⟨hparts, rfl⟩)) (by decide)
  refine ⟨trimEnd_eq_self_iff.mpr fun c hc => htrimmed c ?_, hlast⟩
  rw [h.text_eq, List.getLast?_append_of_ne_nil _ hlast, hc]

theorem concat_lf (h : IsCut text parts last) : IsCut (text ++ ['\n']) (parts ++ [last]) [] where
  text_eq := by rw [h.text_eq]; simp [terminate]
  parts_free := List.forall_mem_append.mpr ⟨h.parts_free, List.forall_mem_singleton.mpr h.last_free⟩
  last_free := List.not_mem_nil

theorem concat (h : IsCut text parts last) (hc : c ≠ '\n') :
    IsCut (text ++ [c]) parts (last ++ [c]) where
  text_eq := by rw [h.text_eq, List.append_assoc]
  parts_free := h.parts_free
  last_free := by
    rw [List.mem_append, List.mem_singleton]
    exact fun hlf => hlf.elim h.last_free hc.symm

theorem mapContents_concat_lf (h : IsCut text parts last) (hnil : f [] = []) :
    mapContents f (text ++ ['\n']) = unlines ((parts.map Line.closed).map (Line.mapContent f)) ++
      (f (dropReturn last) ++ (Line.closed last).terminator.chars) := by
  rw [h.concat_lf.mapContents_eq hnil, hnil, List.append_nil, List.map_append, List.map_append,
    unlines_append, List.map_singleton, List.map_singleton, unlines_singleton]
  rfl

end IsCut

namespace KeepsEnd

theorem trimEnd_mapContents_concat (hf : KeepsEnd f) (hc : isBlank c = true) (text : List Char) :
    trimEnd (mapContents f (text ++ [c])) = trimEnd (mapContents f text) := by
  obtain ⟨parts, last, hcut⟩ := exists_isCut text
  rw [hcut.mapContents_eq hf.apply_nil]
  by_cases hlf : c = '\n'
  · rw [hlf, hcut.mapContents_concat_lf hf.apply_nil]
    apply trimEnd_append_congr
    rw [trimEnd_append_blanks (Terminator.isBlank_of_mem_chars _), hf.trimEnd_apply,
      trimEnd_dropReturn, hf.trimEnd_apply]
  · rw [(hcut.concat hlf).mapContents_eq hf.apply_nil]
    apply trimEnd_append_congr
    rw [hf.trimEnd_apply, trimEnd_concat_blank hc, hf.trimEnd_apply]

theorem trimEnd_mapContents_append (hf : KeepsEnd f) (ht : ∀ c ∈ t, isBlank c = true)
    (text : List Char) : trimEnd (mapContents f (text ++ t)) = trimEnd (mapContents f text) := by
  induction t using List.reverseRecOn with
  | nil => rw [List.append_nil]
  | append_singleton t c ih =>
    obtain ⟨ht, hc⟩ := List.forall_mem_append.mp ht
    rw [← List.append_assoc, hf.trimEnd_mapContents_concat (hc c (List.mem_singleton_self c)), ih ht]

/-- A text without blanks at its end is changed to another. Nothing is left of it only if there was
nothing. -/
theorem mapContents_trimmed (hf : KeepsEnd f) (htrimmed : trimEnd text = text) (hne : text ≠ []) :
    trimEnd (mapContents f text) = mapContents f text ∧ mapContents f text ≠ [] := by
  obtain ⟨parts, last, hcut⟩ := exists_isCut text
  obtain ⟨hlast, hlastne⟩ := hcut.last_trimmed htrimmed hne
  have hchanged : trimEnd (f last) = f last := by rw [hf.trimEnd_apply, hlast]
  have hkept : trimEnd (f last) ≠ [] := fun hnil => by
    rw [hf.eq_nil_iff, hlast] at hnil
    exact hlastne hnil
  rw [hcut.mapContents_eq hf.apply_nil, trimEnd_append_of_ne_nil hkept, hchanged]
  refine ⟨rfl, fun hnil => hkept ?_⟩
  rw [hchanged, (List.append_eq_nil_iff.mp hnil).2]

theorem trimEnd_mapContents (hf : KeepsEnd f) (text : List Char) :
    trimEnd (mapContents f text) = mapContents f (trimEnd text) := by
  obtain ⟨blanks, htext, hblanks⟩ := exists_trimEnd_append text
  have hcut : trimEnd (mapContents f text) = trimEnd (mapContents f (trimEnd text)) := by
    conv_lhs => rw [htext]
    exact hf.trimEnd_mapContents_append hblanks (trimEnd text)
  rw [hcut]
  by_cases hnil : trimEnd text = []
  · rw [hnil]
    rfl
  · exact (hf.mapContents_trimmed (trimEnd_trimEnd text) hnil).1

theorem mapContents_concat_lf (hf : KeepsEnd f) (htrimmed : trimEnd text = text) (hne : text ≠ []) :
    mapContents f (text ++ ['\n']) = mapContents f text ++ ['\n'] := by
  obtain ⟨parts, last, hcut⟩ := exists_isCut text
  obtain ⟨hlast, -⟩ := hcut.last_trimmed htrimmed hne
  have hreturn : last.getLast? ≠ some '\r' := fun hr =>
    absurd (trimEnd_eq_self_iff.mp hlast '\r' hr) (by decide)
  have hclosed : Line.closed last = ⟨last, .lf⟩ := by
    rw [Line.closed, dropReturn_eq_self_iff.mpr hreturn, if_neg hreturn]
  rw [hcut.mapContents_concat_lf hf.apply_nil, hcut.mapContents_eq hf.apply_nil,
    dropReturn_eq_self_iff.mpr hreturn, hclosed, List.append_assoc]
  rfl

end KeepsEnd

end FormatterModules.Text
