import FormatterModules.Text.Blank
import Mathlib.Data.List.DropRight

namespace FormatterModules.Text

theorem trimEnd_eq (s : List Char) : trimEnd s = s.rdropWhile isBlank := rfl

theorem trimEnd_prefix_self (s : List Char) : trimEnd s <+: s := List.rdropWhile_prefix isBlank s

theorem isBlank_last_trimEnd {s : List Char} {c : Char} (h : (trimEnd s).getLast? = some c) :
    isBlank c = false := by
  have hne : trimEnd s ≠ [] := fun he => by rw [he] at h; cases h
  have hlast := List.rdropWhile_last_not isBlank s hne
  rw [List.getLast?_eq_some_getLast hne] at h
  rw [← Option.some.inj h]
  exact eq_false_of_ne_true hlast

theorem trimEnd_eq_self_iff {s : List Char} :
    trimEnd s = s ↔ ∀ c, s.getLast? = some c → isBlank c = false := by
  rw [trimEnd_eq, List.rdropWhile_eq_self_iff]
  constructor
  · intro h c hc
    obtain ⟨init, rfl⟩ := List.getLast?_eq_some_iff.mp hc
    simpa using h (by simp)
  · intro h hne
    simp [h _ (List.getLast?_eq_some_getLast hne)]

theorem trimEnd_trimEnd (s : List Char) : trimEnd (trimEnd s) = trimEnd s :=
  trimEnd_eq_self_iff.mpr fun _ => isBlank_last_trimEnd

theorem exists_trimEnd_append (s : List Char) :
    ∃ blanks, s = trimEnd s ++ blanks ∧ ∀ c ∈ blanks, isBlank c = true :=
  ⟨s.rtakeWhile isBlank, List.rdropWhile_append_rtakeWhile.symm, fun _ => List.mem_rtakeWhile_imp⟩

/-- The first character of a text without blanks in front stays in front. -/
theorem trimStart_of_head {s : List Char} (h : ∀ c, s.head? = some c → isBlank c = false) :
    trimStart s = s := by
  cases s with
  | nil => rfl
  | cons c rest => rw [trimStart, List.dropWhile_cons, h c rfl, if_neg Bool.false_ne_true]

theorem isBlank_head_trimStart {s : List Char} {c : Char} (h : (trimStart s).head? = some c) :
    isBlank c = false := by
  have hne : trimStart s ≠ [] := fun he => by rw [he] at h; cases h
  have hhead := List.head_dropWhile_not isBlank hne
  rw [List.head?_eq_some_head hne] at h
  rwa [← Option.some.inj h]

theorem trim_prefix_trimStart (s : List Char) : trim s <+: trimStart s :=
  trimEnd_prefix_self (trimStart s)

theorem isBlank_head_trim {s : List Char} {c : Char} (h : (trim s).head? = some c) :
    isBlank c = false := by
  obtain ⟨rest, hrest⟩ := trim_prefix_trimStart s
  refine isBlank_head_trimStart (s := s) ?_
  rw [← hrest, List.head?_append, h]
  rfl

theorem isBlank_last_trim {s : List Char} {c : Char} (h : (trim s).getLast? = some c) :
    isBlank c = false := isBlank_last_trimEnd h

/-- A text stays as it is if there is no blank at either end. -/
theorem trim_eq_self {s : List Char} (hhead : ∀ c, s.head? = some c → isBlank c = false)
    (hlast : ∀ c, s.getLast? = some c → isBlank c = false) : trim s = s := by
  rw [trim, trimStart_of_head hhead, trimEnd_eq_self_iff.mpr hlast]

theorem trim_trim (s : List Char) : trim (trim s) = trim s :=
  trim_eq_self (fun _ => isBlank_head_trim) fun _ => isBlank_last_trim

theorem trim_of_forall_not_blank {s : List Char} (h : ∀ c ∈ s, isBlank c = false) : trim s = s :=
  trim_eq_self (fun c hc => h c (List.mem_of_mem_head? hc)) fun c hc => h c (List.mem_of_getLast? hc)

theorem trim_concat_blank {s : List Char} {c : Char} (h : isBlank c = true) :
    trim (s ++ [c]) = trim s := by
  rw [trim, trim, trimStart, trimStart, List.dropWhile_append]
  split
  · next hempty =>
    rw [List.isEmpty_iff.mp hempty, List.dropWhile_cons, if_pos h]
    rfl
  · exact List.rdropWhile_concat_pos isBlank _ c h

theorem count_dropWhile_of_not {p : Char → Bool} {c : Char} (h : p c = false) (s : List Char) :
    (s.dropWhile p).count c = s.count c := by
  have hnone : (s.takeWhile p).count c = 0 := by
    apply List.count_eq_zero_of_not_mem
    intro hmem
    rw [List.mem_takeWhile_imp hmem] at h
    cases h
  have hsplit := congrArg (List.count c) (List.takeWhile_append_dropWhile (p := p) (l := s))
  rwa [List.count_append, hnone, Nat.zero_add] at hsplit

/-- Trimming takes away blanks only. -/
theorem count_trim {c : Char} (h : isBlank c = false) (s : List Char) :
    (trim s).count c = s.count c := by
  rw [trim, trimEnd, List.count_reverse, count_dropWhile_of_not h, List.count_reverse, trimStart,
    count_dropWhile_of_not h]

theorem mem_of_mem_trim {s : List Char} {c : Char} (h : c ∈ trim s) : c ∈ s :=
  (List.dropWhile_sublist isBlank).subset ((trim_prefix_trimStart s).subset h)

end FormatterModules.Text
