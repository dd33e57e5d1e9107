import FormatterModules.Proofs.Text.Blank
import FormatterModules.Proofs.Text.Pieces

namespace FormatterModules.Text

/-- The texts one after another, a line feed behind each. -/
def terminate (parts : List (List Char)) : List Char := parts.flatMap fun s => s ++ ['\n']

def dropReturn (s : List Char) : List Char :=
  if s.getLast? = some '\r' then s.dropLast else s

/-- The line that a line feed makes of the text before it. -/
def Line.closed (s : List Char) : Line :=
  ⟨dropReturn s, if s.getLast? = some '\r' then .crlf else .lf⟩

/-- The text as one part, unless it is empty. -/
def remainder (s : List Char) : List (List Char) := if s = [] then [] else [s]

/-- The line of the text behind the last line feed, if there is any. -/
def Line.last (s : List Char) : Line := ⟨s, .none⟩

def contents (text : List Char) : List (List Char) := (lines text).map Line.content

variable {s t : List Char} {parts others : List (List Char)}

theorem dropReturn_cons (c : Char) (hs : s ≠ []) : dropReturn (c :: s) = c :: dropReturn s := by
  obtain ⟨d, rest, rfl⟩ := List.exists_cons_of_ne_nil hs
  unfold dropReturn
  rw [List.getLast?_cons_cons]
  split <;> rfl

theorem dropReturn_eq_self_iff : dropReturn s = s ↔ s.getLast? ≠ some '\r' := by
  unfold dropReturn
  split
  · next h =>
    have hne : s ≠ [] := fun he => by rw [he] at h; cases h
    have hlength : s.dropLast ≠ s := fun he => by
      have hle := congrArg List.length he
      have hpos := List.length_pos_iff.mpr hne
      rw [List.length_dropLast] at hle
      omega
    exact iff_of_false hlength (not_not_intro h)
  · next h => exact iff_of_true rfl h

theorem Line.chars_closed (s : List Char) : (Line.closed s).chars = s ++ ['\n'] := by
  unfold Line.closed Line.chars dropReturn
  split
  · next h =>
    obtain ⟨init, rfl⟩ := List.getLast?_eq_some_iff.mp h
    simp [Terminator.chars]
  · rfl

theorem Line.chars_last (s : List Char) : (Line.last s).chars = s := List.append_nil s

theorem trim_dropReturn (s : List Char) : trim (dropReturn s) = trim s := by
  unfold dropReturn
  split
  · next h =>
    obtain ⟨init, rfl⟩ := List.getLast?_eq_some_iff.mp h
    rw [List.dropLast_concat, trim_concat_blank (by decide)]
  · rfl

theorem mem_of_mem_dropReturn {c : Char} (h : c ∈ dropReturn s) : c ∈ s := by
  unfold dropReturn at h
  split at h
  · exact (List.dropLast_sublist s).subset h
  · exact h

theorem lines_cons {c : Char} (hc : c ≠ '\n') (h : c = '\r' → s.head? ≠ some '\n') :
    lines (c :: s) = consContent c (lines s) := by
  rw [lines]
  · exact hc
  · rintro rest rfl rfl
    exact h rfl rfl

theorem lines_append (h : '\n' ∉ s) (rest : List Char) :
    lines (s ++ '\n' :: rest) = Line.closed s :: lines rest := by
  induction s with
  | nil => rfl
  | cons c s ih =>
    obtain ⟨hc, hs⟩ := List.ne_and_not_mem_of_not_mem_cons h
    by_cases hnil : s = []
    · subst hnil
      by_cases hreturn : c = '\r'
      · rw [hreturn]
        rfl
      · rw [List.cons_append, lines_cons hc.symm fun he => absurd he hreturn]
        simp [lines, consContent, Line.closed, dropReturn, hreturn]
    · have hhead : (s ++ '\n' :: rest).head? ≠ some '\n' := by
        obtain ⟨d, t, rfl⟩ := List.exists_cons_of_ne_nil hnil
        intro he
        exact hs (by rw [← Option.some.inj he]; exact List.mem_cons_self)
      have hlast : (c :: s).getLast? = s.getLast? := by
        rw [List.getLast?_cons, List.getLast?_eq_some_getLast hnil]
        rfl
      rw [List.cons_append, lines_cons hc.symm fun _ => hhead, ih hs, consContent, Line.closed,
        Line.closed, dropReturn_cons c hnil, hlast]

theorem lines_of_notMem (h : '\n' ∉ s) : lines s = (remainder s).map Line.last := by
  induction s with
  | nil => rfl
  | cons c s ih =>
    obtain ⟨hc, hs⟩ := List.ne_and_not_mem_of_not_mem_cons h
    rw [lines_cons hc.symm fun _ he => hs (List.mem_of_head? he), ih hs]
    cases s <;> rfl

theorem lines_terminate (hparts : ∀ s ∈ parts, '\n' ∉ s) (ht : '\n' ∉ t) :
    lines (terminate parts ++ t) = parts.map Line.closed ++ (remainder t).map Line.last := by
  induction parts with
  | nil => exact lines_of_notMem ht
  | cons s parts ih =>
    obtain ⟨hs, hrest⟩ := List.forall_mem_cons.mp hparts
    have hcons : terminate (s :: parts) ++ t = s ++ '\n' :: (terminate parts ++ t) := by
      simp [terminate]
    rw [hcons, lines_append hs, ih hrest]
    rfl

theorem intercalate_concat (parts : List (List Char)) (t : List Char) :
    ['\n'].intercalate (parts ++ [t]) = terminate parts ++ t := by
  induction parts with
  | nil => simp [List.intercalate, terminate]
  | cons s parts ih =>
    obtain ⟨u, us, hcons⟩ : ∃ u us, parts ++ [t] = u :: us :=
      List.exists_cons_of_ne_nil (by simp)
    rw [List.cons_append, hcons, List.intercalate_cons_cons, ← hcons, ih]
    simp [terminate]

theorem intercalate_append_lf (h : parts ≠ []) :
    ['\n'].intercalate parts ++ ['\n'] = terminate parts := by
  obtain ⟨init, last, rfl⟩ : ∃ init last, parts = init ++ [last] :=
    ⟨_, _, (List.dropLast_concat_getLast h).symm⟩
  rw [intercalate_concat]
  simp [terminate]

theorem append_remainder_injective (h : s = [] ↔ t = [])
    (heq : parts ++ remainder s = others ++ remainder t) : parts = others ∧ s = t := by
  unfold remainder at heq
  by_cases hs : s = []
  · rw [if_pos hs, if_pos (h.mp hs), List.append_nil, List.append_nil] at heq
    exact ⟨heq, hs.trans (h.mp hs).symm⟩
  · rw [if_neg hs, if_neg fun ht => hs (h.mpr ht)] at heq
    obtain ⟨hparts, hlast⟩ := List.append_inj' heq rfl
    exact ⟨hparts, List.singleton_inj.mp hlast⟩

/-- The text is cut at its line feeds: the parts stand before them, and the last part behind. -/
structure IsCut (text : List Char) (parts : List (List Char)) (last : List Char) : Prop where
  text_eq : text = terminate parts ++ last
  parts_free : ∀ s ∈ parts, '\n' ∉ s
  last_free : '\n' ∉ last

theorem exists_isCut (text : List Char) : ∃ parts last, IsCut text parts last := by
  obtain ⟨parts, last, hpieces⟩ : ∃ parts last, splitOn '\n' text = parts ++ [last] :=
    ⟨_, _, (List.dropLast_concat_getLast (List.splitOn_ne_nil '\n' text)).symm⟩
  have hfree : ∀ s ∈ parts ++ [last], '\n' ∉ s := by
    intro s hs hmem
    rw [← hpieces] at hs
    exact (of_mem_splitOn hs '\n' hmem).2 rfl
  refine ⟨parts, last, ?_, fun s hs => hfree s (by simp [hs]), hfree last (by simp)⟩
  rw [← intercalate_concat, ← hpieces]
  exact (List.intercalate_splitOn '\n').symm

namespace IsCut

variable {text other last final : List Char}

theorem lines_eq (h : IsCut text parts last) :
    lines text = parts.map Line.closed ++ (remainder last).map Line.last := by
  rw [h.text_eq]
  exact lines_terminate h.parts_free h.last_free

theorem contents_eq (h : IsCut text parts last) :
    contents text = parts.map dropReturn ++ remainder last := by
  rw [contents, h.lines_eq, List.map_append, List.map_map, List.map_map]
  exact congrArg _ (List.map_id _)

theorem lf_free_of_mem_contents (h : IsCut text parts last) (hs : s ∈ contents text) :
    '\n' ∉ s := by
  rw [h.contents_eq] at hs
  obtain hs | hs := List.mem_append.mp hs
  · obtain ⟨u, hu, rfl⟩ := List.mem_map.mp hs
    exact fun hlf => h.parts_free u hu (mem_of_mem_dropReturn hlf)
  · unfold remainder at hs
    split at hs
    · cases hs
    · obtain rfl := List.mem_singleton.mp hs
      exact h.last_free

theorem splitOn_eq (h : IsCut text parts last) : splitOn '\n' text = parts ++ [last] := by
  have hfree : ∀ s ∈ parts ++ [last], '\n' ∉ s :=
    List.forall_mem_append.mpr ⟨h.parts_free, List.forall_mem_singleton.mpr h.last_free⟩
  rw [h.text_eq, ← intercalate_concat, splitOn, List.splitOn_intercalate '\n' hfree (by simp)]

theorem eq_iff (h : IsCut text parts last) (hother : IsCut other others final) :
    text = other ↔ parts = others ∧ last = final := by
  constructor
  · intro heq
    have hpieces := congrArg (splitOn '\n') heq
    rw [h.splitOn_eq, hother.splitOn_eq] at hpieces
    obtain ⟨hparts, hlast⟩ := List.append_inj' hpieces rfl
    exact ⟨hparts, List.singleton_inj.mp hlast⟩
  · rintro ⟨rfl, rfl⟩
    rw [h.text_eq, hother.text_eq]

theorem getLast?_eq_lf_iff (h : IsCut text parts last) :
    text.getLast? = some '\n' ↔ parts ≠ [] ∧ last = [] := by
  rw [h.text_eq]
  by_cases hnil : last = []
  · subst hnil
    cases parts using List.reverseRecOn with
    | nil => simp [terminate]
    | append_singleton parts s =>
      have hlast : terminate (parts ++ [s]) ++ [] = terminate parts ++ s ++ ['\n'] := by
        simp [terminate]
      rw [hlast, List.getLast?_concat]
      simp
  · have hlast : (terminate parts ++ last).getLast? = last.getLast? := by
      rw [List.getLast?_append, List.getLast?_eq_some_getLast hnil]
      rfl
    rw [hlast]
    exact iff_of_false (fun hlf => h.last_free (List.mem_of_getLast? hlf)) fun h => hnil h.2

end IsCut

theorem unlines_lines (text : List Char) : unlines (lines text) = text := by
  obtain ⟨parts, last, hcut⟩ := exists_isCut text
  have hlast : (remainder last).flatMap (fun s => (Line.last s).chars) = last := by
    unfold remainder
    split
    · next h => exact h.symm
    · rw [List.flatMap_singleton, Line.chars_last]
  rw [unlines, hcut.lines_eq, List.flatMap_append, List.flatMap_map, List.flatMap_map, hlast,
    hcut.text_eq]
  simp only [Line.chars_closed]
  rfl

end FormatterModules.Text
