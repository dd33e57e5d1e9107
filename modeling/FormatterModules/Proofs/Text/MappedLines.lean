import Mathlib.Data.List.Forall2
import FormatterModules.Proofs.Text.Lines

namespace FormatterModules.Text

/-- The line with another content. It ends as before. -/
def Line.mapContent (f : List Char → List Char) (line : Line) : Line :=
  ⟨f line.content, line.terminator⟩

/-- The line is one that a text can have. No line feed stands in it, and a carriage return before the
line feed that ends it belongs to what ends it. -/
structure Line.IsWhole (line : Line) : Prop where
  lf_free : '\n' ∉ line.content
  return_free : line.terminator = .lf → line.content.getLast? ≠ some '\r'

variable {f g : List Char → List Char} {s text rest : List Char} {line : Line} {ls : List Line}

theorem unlines_cons (line : Line) (ls : List Line) : unlines (line :: ls) = line.chars ++ unlines ls :=
  List.flatMap_cons

theorem unlines_append (ls others : List Line) : unlines (ls ++ others) = unlines ls ++ unlines others :=
  List.flatMap_append

theorem unlines_singleton (line : Line) : unlines [line] = line.chars :=
  List.flatMap_singleton Line.chars line

theorem Line.chars_ne_nil (h : line.terminator ≠ .none) : line.chars ≠ [] := by
  obtain ⟨content, terminator⟩ := line
  cases terminator with
  | none => exact absurd rfl h
  | lf | crlf => simp [Line.chars, Terminator.chars]

theorem Line.terminator_closed (s : List Char) : (Line.closed s).terminator ≠ .none := by
  unfold Line.closed
  split <;> simp

namespace Line.IsWhole

theorem closed (h : '\n' ∉ s) : (Line.closed s).IsWhole := by
  refine ⟨fun hmem => h (mem_of_mem_dropReturn hmem), fun hlf => ?_⟩
  unfold Line.closed at hlf ⊢
  split at hlf
  · cases hlf
  · next hreturn => rwa [dropReturn_eq_self_iff.mpr hreturn]

theorem exists_closed (h : line.IsWhole) (hended : line.terminator ≠ .none) :
    ∃ s, '\n' ∉ s ∧ line = Line.closed s := by
  obtain ⟨content, terminator⟩ := line
  cases terminator with
  | none => exact absurd rfl hended
  | lf =>
    refine ⟨content, h.lf_free, ?_⟩
    have hreturn := h.return_free rfl
    rw [Line.closed, dropReturn_eq_self_iff.mpr hreturn, if_neg hreturn]
  | crlf =>
    refine ⟨content ++ ['\r'], ?_, ?_⟩
    · simpa using h.lf_free
    · simp [Line.closed, dropReturn]

end Line.IsWhole

theorem closed_or_last_of_mem_lines (h : line ∈ lines text) :
    ∃ s, '\n' ∉ s ∧ (line = Line.closed s ∨ s ≠ [] ∧ line = Line.last s) := by
  obtain ⟨parts, last, hcut⟩ := exists_isCut text
  rw [hcut.lines_eq] at h
  obtain h | h := List.mem_append.mp h
  · obtain ⟨s, hs, rfl⟩ := List.mem_map.mp h
    exact ⟨s, hcut.parts_free s hs, .inl rfl⟩
  · unfold remainder at h
    split at h
    · cases h
    · next hlast =>
      obtain rfl := List.mem_singleton.mp h
      exact ⟨last, hcut.last_free, .inr ⟨hlast, rfl⟩⟩

theorem isWhole_of_mem_lines (h : line ∈ lines text) : line.IsWhole := by
  obtain ⟨s, hlf, rfl | ⟨-, rfl⟩⟩ := closed_or_last_of_mem_lines h
  · exact .closed hlf
  · exact ⟨hlf, fun hended => nomatch hended⟩

theorem chars_ne_nil_of_mem_lines (h : line ∈ lines text) : line.chars ≠ [] := by
  obtain ⟨s, -, rfl | ⟨hne, rfl⟩⟩ := closed_or_last_of_mem_lines h
  · exact Line.chars_ne_nil (Line.terminator_closed s)
  · rwa [Line.chars_last]

theorem lines_unlines_append (h : ∀ line ∈ ls, line.IsWhole ∧ line.terminator ≠ .none) :
    lines (unlines ls ++ rest) = ls ++ lines rest := by
  induction ls with
  | nil => rfl
  | cons line ls ih =>
    obtain ⟨⟨hwhole, hended⟩, hls⟩ := List.forall_mem_cons.mp h
    obtain ⟨s, hs, rfl⟩ := hwhole.exists_closed hended
    have hcons : unlines (Line.closed s :: ls) ++ rest = s ++ '\n' :: (unlines ls ++ rest) := by
      rw [unlines_cons, Line.chars_closed]
      simp
    rw [hcons, lines_append hs, ih hls, List.cons_append]

theorem lines_chars (h : line.IsWhole) :
    lines line.chars = [line] ∨ line = ⟨[], .none⟩ ∧ lines line.chars = [] := by
  by_cases hended : line.terminator = .none
  · obtain ⟨content, terminator⟩ := line
    obtain rfl : terminator = .none := hended
    have hchars : (⟨content, .none⟩ : Line).chars = content := List.append_nil content
    rw [hchars, lines_of_notMem h.lf_free, remainder]
    by_cases hcontent : content = []
    · exact .inr (by simp [hcontent])
    · exact .inl (by simp [hcontent, Line.last])
  · have hread : lines (unlines [line] ++ []) = [line] :=
      lines_unlines_append (List.forall_mem_singleton.mpr ⟨h, hended⟩)
    rw [unlines_singleton, List.append_nil] at hread
    exact .inl hread

/-- Lines of which all but the last end are read again from their characters. Only an empty last line
without an end is lost. -/
theorem lines_unlines (h : ∀ line ∈ ls, line.IsWhole)
    (hended : ∀ line ∈ ls.dropLast, line.terminator ≠ .none) :
    lines (unlines ls) = ls ∨ ls = lines (unlines ls) ++ [⟨[], .none⟩] := by
  cases ls using List.reverseRecOn with
  | nil => exact .inl rfl
  | append_singleton ls line =>
    rw [List.dropLast_concat] at hended
    obtain ⟨hls, hline⟩ := List.forall_mem_append.mp h
    rw [unlines_append, unlines_singleton,
      lines_unlines_append fun line hmem => ⟨hls line hmem, hended line hmem⟩]
    obtain hread | ⟨rfl, hread⟩ := lines_chars (List.forall_mem_singleton.mp hline)
    · exact .inl (by rw [hread])
    · exact .inr (by rw [hread, List.append_nil])

theorem ended_of_mem_dropLast_lines (h : line ∈ (lines text).dropLast) : line.terminator ≠ .none := by
  obtain ⟨parts, last, hcut⟩ := exists_isCut text
  have hclosed : ∀ line ∈ parts.map Line.closed, line.terminator ≠ .none :=
    List.forall_mem_map.mpr fun s _ => Line.terminator_closed s
  rw [hcut.lines_eq] at h
  unfold remainder at h
  split at h
  · rw [List.map_nil, List.append_nil] at h
    exact hclosed line (List.dropLast_subset _ h)
  · rw [List.map_singleton, List.dropLast_concat] at h
    exact hclosed line h

theorem ended_of_mem_dropLast_map (h : line ∈ ((lines text).map (Line.mapContent f)).dropLast) :
    line.terminator ≠ .none := by
  rw [← List.map_dropLast] at h
  obtain ⟨source, hsource, rfl⟩ := List.mem_map.mp h
  have hended : source.terminator ≠ .none := ended_of_mem_dropLast_lines hsource
  exact hended

theorem mapContents_eq (f : List Char → List Char) (text : List Char) :
    mapContents f text = unlines ((lines text).map (Line.mapContent f)) := by
  rw [unlines, List.flatMap_map]
  rfl

/-- A text that is changed line by line has the changed lines. Nothing is left of a last line that
becomes empty. -/
theorem lines_mapContents (h : ∀ line ∈ lines text, (line.mapContent f).IsWhole) :
    lines (mapContents f text) = (lines text).map (Line.mapContent f) ∨
      (lines text).map (Line.mapContent f) = lines (mapContents f text) ++ [⟨[], .none⟩] := by
  rw [mapContents_eq]
  exact lines_unlines (List.forall_mem_map.mpr h) fun _ => ended_of_mem_dropLast_map

theorem lines_mapContents_of_kept (h : ∀ line ∈ lines text, (line.mapContent f).IsWhole)
    (hkept : ∀ line ∈ lines text, f line.content = [] → line.content = []) :
    lines (mapContents f text) = (lines text).map (Line.mapContent f) := by
  obtain hlines | hlines := lines_mapContents h
  · exact hlines
  · have hempty : ⟨[], .none⟩ ∈ (lines text).map (Line.mapContent f) := by
      rw [hlines]
      exact List.mem_append_right _ (List.mem_singleton_self _)
    obtain ⟨line, hline, hlost⟩ := List.mem_map.mp hempty
    obtain ⟨hcontent, hterminator⟩ := Line.mk.inj hlost
    have hchars : line.chars = [] := by
      rw [Line.chars, hkept line hline hcontent, hterminator]
      rfl
    exact absurd hchars (chars_ne_nil_of_mem_lines hline)

theorem mem_map_of_mem_lines_mapContents (h : ∀ line ∈ lines text, (line.mapContent f).IsWhole)
    (hline : line ∈ lines (mapContents f text)) : line ∈ (lines text).map (Line.mapContent f) := by
  obtain hlines | hlines := lines_mapContents h
  · rwa [← hlines]
  · rw [hlines]
    exact List.mem_append_left _ hline

theorem forall₂_map_mapContent {R : Line → Line → Prop}
    (h : ∀ line ∈ ls, R line (line.mapContent f)) : List.Forall₂ R ls (ls.map (Line.mapContent f)) :=
  List.forall₂_map_right_iff.mpr (List.forall₂_same.mpr h)

theorem mapContents_mapContents (h : ∀ line ∈ lines text, (line.mapContent g).IsWhole)
    (hnil : f [] = []) : mapContents f (mapContents g text) = mapContents (f ∘ g) text := by
  have hmap : (lines text).map (Line.mapContent (f ∘ g)) =
      ((lines text).map (Line.mapContent g)).map (Line.mapContent f) := by
    rw [List.map_map]
    rfl
  rw [mapContents_eq f, mapContents_eq (f ∘ g), hmap]
  obtain hlines | hlines := lines_mapContents h
  · rw [hlines]
  · have hlost : (Line.mapContent f ⟨[], .none⟩).chars = [] := List.append_eq_nil_iff.mpr ⟨hnil, rfl⟩
    rw [hlines, List.map_append, List.map_singleton, unlines_append, unlines_singleton, hlost,
      List.append_nil]

end FormatterModules.Text
