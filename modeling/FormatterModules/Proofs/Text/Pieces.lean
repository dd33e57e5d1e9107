import FormatterModules.Text.Lines

namespace FormatterModules.Text

variable {separator c : Char} {s piece : List Char}

theorem splitOn_cons (separator c : Char) (s : List Char) :
    splitOn separator (c :: s) =
      if c = separator then [] :: splitOn separator s
      else (splitOn separator s).modifyHead (c :: ·) := by
  rw [splitOn, List.splitOn_eq_splitOnP, List.splitOnP_cons_eq_if_modifyHead,
    ← List.splitOn_eq_splitOnP]
  simp [splitOn]

theorem exists_splitOn_eq_cons (separator : Char) (s : List Char) :
    ∃ first rest, splitOn separator s = first :: rest :=
  List.exists_cons_of_ne_nil (List.splitOn_ne_nil separator s)

theorem of_mem_splitOn (h : piece ∈ splitOn separator s) :
    ∀ c ∈ piece, c ∈ s ∧ c ≠ separator := by
  induction s generalizing piece with
  | nil =>
    obtain rfl : piece = [] := by simpa [splitOn] using h
    simp
  | cons d s ih =>
    have htail : ∀ piece ∈ splitOn separator s, ∀ c ∈ piece, c ∈ d :: s ∧ c ≠ separator :=
      fun piece hp c hc => ⟨List.mem_cons_of_mem d (ih hp c hc).1, (ih hp c hc).2⟩
    rw [splitOn_cons] at h
    split at h
    · obtain rfl | h := List.mem_cons.mp h
      · simp
      · exact htail piece h
    · next hd =>
      obtain ⟨first, rest, hcons⟩ := exists_splitOn_eq_cons separator s
      rw [hcons] at h htail
      obtain rfl | h := List.mem_cons.mp h
      · intro c hc
        obtain rfl | hc := List.mem_cons.mp hc
        · exact ⟨List.mem_cons_self, hd⟩
        · exact htail first List.mem_cons_self c hc
      · exact htail piece (List.mem_cons_of_mem first h)

theorem exists_mem_splitOn (h : c ∈ s) (hc : c ≠ separator) :
    ∃ piece ∈ splitOn separator s, c ∈ piece := by
  induction s with
  | nil => cases h
  | cons d s ih =>
    rw [splitOn_cons]
    split
    · next hd =>
      obtain rfl | h := List.mem_cons.mp h
      · exact absurd hd hc
      · obtain ⟨piece, hp, hmem⟩ := ih h
        exact ⟨piece, List.mem_cons_of_mem [] hp, hmem⟩
    · obtain ⟨first, rest, hcons⟩ := exists_splitOn_eq_cons separator s
      rw [hcons] at ih ⊢
      obtain rfl | h := List.mem_cons.mp h
      · exact ⟨c :: first, List.mem_cons_self, List.mem_cons_self⟩
      · obtain ⟨piece, hp, hmem⟩ := ih h
        obtain rfl | hp := List.mem_cons.mp hp
        · exact ⟨d :: piece, List.mem_cons_self, List.mem_cons_of_mem d hmem⟩
        · exact ⟨piece, List.mem_cons_of_mem _ hp, hmem⟩

/-- A text without a separator joins the first piece of what follows it. -/
theorem splitOn_append_of_notMem {w : List Char} (h : separator ∉ w) (s : List Char) :
    splitOn separator (w ++ s) = (splitOn separator s).modifyHead (w ++ ·) := by
  induction w with
  | nil =>
    change _ = List.modifyHead id _
    rw [List.modifyHead_id]
    rfl
  | cons c w ih =>
    have hc : c ≠ separator := fun he => h (he ▸ List.mem_cons_self)
    rw [List.cons_append, splitOn_cons, if_neg hc, ih fun hw => h (List.mem_cons_of_mem c hw),
      List.modifyHead_modifyHead]
    rfl

theorem length_splitOn (separator : Char) (s : List Char) :
    (splitOn separator s).length = s.count separator + 1 := by
  induction s with
  | nil => rfl
  | cons c s ih =>
    rw [splitOn_cons]
    by_cases hc : c = separator
    · simp [hc, ih]
    · simp [hc, ih]

theorem length_pieces (separator : Char) (s : String) :
    (pieces separator s).length = s.toList.count separator + 1 := by
  rw [pieces, List.length_map, length_splitOn]

theorem splitOn_of_notMem (h : separator ∉ s) : splitOn separator s = [s] := by
  rw [splitOn, List.splitOn_eq_splitOnP]
  exact List.splitOnP_eq_singleton fun c hc => beq_eq_false_iff_ne.mpr fun he => h (he ▸ hc)

theorem splitOn_injective (separator : Char) : Function.Injective (splitOn separator) := by
  refine Function.LeftInverse.injective (g := List.intercalate [separator]) fun s => ?_
  exact List.intercalate_splitOn separator

theorem join_pieces {between : String} (h : between.toList = [separator]) (s : String) :
    join between (pieces separator s) = s := by
  have hlist : (join between (pieces separator s)).toList = s.toList := by
    rw [join, pieces, String.toList_intercalate, List.map_map, h]
    simp [Function.comp_def, splitOn, List.intercalate_splitOn]
  exact String.toList_inj.mp hlist

theorem pieces_join {between : String} (h : between.toList = [separator]) {parts : List String}
    (hne : parts ≠ []) (hparts : ∀ part ∈ parts, separator ∉ part.toList) :
    pieces separator (join between parts) = parts := by
  have hfree : ∀ part ∈ parts.map String.toList, separator ∉ part := List.forall_mem_map.mpr hparts
  rw [pieces, join, String.toList_intercalate, h, splitOn,
    List.splitOn_intercalate separator hfree (by simpa using hne), List.map_map]
  simp [Function.comp_def]

theorem pieces_injective (separator : Char) : Function.Injective (pieces separator) := by
  intro s t h
  have hparts : splitOn separator s.toList = splitOn separator t.toList :=
    (List.map_inj_right fun _ _ he => String.ofList_injective he).mp h
  exact String.toList_injective (splitOn_injective separator hparts)

/-- Texts that are put together with a separator between them can be told from the outcome, if there
is none in those before it, or none in those behind it. -/
theorem append_separator_inj {before after before' after' : List Char}
    (h : separator ∉ before ∧ separator ∉ before' ∨ separator ∉ after ∧ separator ∉ after') :
    before ++ separator :: after = before' ++ separator :: after' ↔
      before = before' ∧ after = after' := by
  refine ⟨fun heq => ?_, fun ⟨hb, ha⟩ => by rw [hb, ha]⟩
  have hpieces : splitOn separator before ++ splitOn separator after =
      splitOn separator before' ++ splitOn separator after' := by
    simpa only [splitOn, List.splitOn_append_cons_self] using congrArg (splitOn separator) heq
  obtain ⟨hb, hb'⟩ | ⟨ha, ha'⟩ := h
  · rw [splitOn_of_notMem hb, splitOn_of_notMem hb'] at hpieces
    obtain ⟨hbefore, hafter⟩ := List.cons_eq_cons.mp hpieces
    exact ⟨hbefore, splitOn_injective separator hafter⟩
  · rw [splitOn_of_notMem ha, splitOn_of_notMem ha'] at hpieces
    obtain ⟨hbefore, hafter⟩ := List.append_inj' hpieces rfl
    exact ⟨splitOn_injective separator hbefore, List.head_eq_of_cons_eq hafter⟩

end FormatterModules.Text
