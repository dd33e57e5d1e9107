import FormatterModules.Proofs.FileTree.Writing

namespace FormatterModules.Path

theorem placeFrom_join (p : Path) {q : Path} (h : q.isAbsolute = false) (directory : Place) :
    (p.join q).placeFrom directory = q.placeFrom (p.placeFrom directory) := by
  have htext := toList_join p h
  obtain ⟨hp, hopened⟩ | ⟨before, hopened, hp⟩ := opened_cases p.text.toList
  · obtain rfl : p = ⟨""⟩ := congrArg Path.mk (String.toList_eq_nil_iff.mp hp)
    rw [hopened, List.nil_append] at htext
    obtain hq : (join ⟨""⟩ q) = q := congrArg Path.mk (String.toList_injective htext)
    rw [hq]
    rfl
  · rw [hopened, List.append_assoc, List.singleton_append] at htext
    have habsolute : (p.join q).isAbsolute = p.isAbsolute := by
      unfold isAbsolute
      obtain hp | ⟨hp, hbefore⟩ := hp
      · rw [htext, hp, List.head?_append, List.head?_append]
        rfl
      · rw [htext, hp, List.head?_append_of_ne_nil _ hbefore]
    have hbefore : p.placeFrom directory = (Text.splitOn '/' before).foldl follow
        (if p.isAbsolute then [] else directory) := by
      unfold placeFrom
      obtain hp | ⟨hp, -⟩ := hp
      · rw [pieces_of_slash hp, List.foldl_append]
        rfl
      · rw [pieces, hp]
    rw [placeFrom, habsolute, pieces_of_slash htext, List.foldl_append, ← hbefore]
    unfold placeFrom
    rw [h]
    rfl

/-- How a path is taken apart: behind the slash of an absolute path, behind a dot that stands alone, or
at the beginning. -/
inductive Splits (p : Path) : Prop
  | absolute {t : List Char} (text : p.text.toList = '/' :: t)
      (split : p.splitStart = (['/'], Text.splitOn '/' t))
  | alone (text : p.text.toList = ['.']) (split : p.splitStart = (['.'], [[]]))
  | current {t : List Char} (text : p.text.toList = '.' :: '/' :: t)
      (split : p.splitStart = (['.'], [] :: Text.splitOn '/' t))
  | relative (relative : p.isAbsolute = false) (split : p.splitStart = ([], p.pieces))

theorem splits (p : Path) : p.Splits := by
  by_cases habsolute : p.isAbsolute = true
  · obtain ⟨t, ht⟩ := List.head?_eq_some_iff.mp (beq_iff_eq.mp habsolute)
    exact .absolute ht (by rw [splitStart, if_pos habsolute, ht]; rfl)
  · by_cases hcurrent : (p.pieces.head? == some ['.']) = true
    · obtain ⟨rest, hpieces⟩ := List.head?_eq_some_iff.mp (beq_iff_eq.mp hcurrent)
      have htext : p.text.toList = ['/'].intercalate (['.'] :: rest) := by
        rw [← hpieces]
        exact (List.intercalate_splitOn '/').symm
      have hsplit : p.splitStart = (['.'], Text.splitOn '/' (p.text.toList.drop 1)) := by
        rw [splitStart, if_neg habsolute, if_pos hcurrent]
      cases rest with
      | nil =>
        have htext : p.text.toList = ['.'] := htext
        exact .alone htext (by rw [hsplit, htext]; rfl)
      | cons piece rest =>
        have htext : p.text.toList = '.' :: '/' :: ['/'].intercalate (piece :: rest) := by
          rw [htext, List.intercalate_cons_cons]
          rfl
        refine .current htext ?_
        rw [hsplit, htext, List.drop_one, List.tail_cons, Text.splitOn_cons, if_pos rfl]
    · refine .relative (by simpa using habsolute) ?_
      rw [splitStart, if_neg habsolute, if_neg hcurrent]

/-- Where the pieces start that a path can be taken apart into. -/
def origin (p : Path) (directory : Place) : Place := if p.isAbsolute then [] else directory

theorem isAbsolute_of_toList {p : Path} {c : Char} {t : List Char} (h : p.text.toList = c :: t) :
    p.isAbsolute = (c == '/') := by
  rw [isAbsolute, h]
  rfl

theorem placeFrom_eq_splitStart (p : Path) (directory : Place) :
    p.placeFrom directory = p.splitStart.2.foldl follow (p.origin directory) := by
  cases p.splits with
  | absolute text split =>
    rw [split, placeFrom, pieces, text, Text.splitOn_cons, if_pos rfl]
    rfl
  | alone text split =>
    rw [split, placeFrom, pieces, text]
    rfl
  | current text split =>
    rw [split, placeFrom, @pieces_of_slash p ['.'] _ text]
    rfl
  | relative relative split => rw [split]; rfl

theorem intercalate_prefix_intercalate (separator : Char) {kept all : List (List Char)}
    (h : kept <+: all) :
    [separator].intercalate kept <+: [separator].intercalate all := by
  induction kept generalizing all with
  | nil => exact List.nil_prefix
  | cons first kept ih =>
    obtain ⟨rest, rfl⟩ := h
    rw [List.cons_append]
    cases kept with
    | nil =>
      cases rest with
      | nil => exact List.prefix_rfl
      | cons second rest =>
        rw [List.nil_append, List.intercalate_cons_cons]
        simp [List.intercalate]
    | cons second kept =>
      rw [List.cons_append, List.intercalate_cons_cons, List.intercalate_cons_cons]
      exact List.prefix_append_right_inj _ |>.mpr (ih ⟨rest, rfl⟩)

theorem foldl_follow_splitOn {kept : List (List Char)} (h : ∀ piece ∈ kept, '/' ∉ piece)
    (place : Place) :
    (Text.splitOn '/' (['/'].intercalate kept)).foldl follow place = kept.foldl follow place := by
  by_cases hne : kept = []
  · rw [hne]
    rfl
  · rw [Text.splitOn, List.splitOn_intercalate '/' h hne]

theorem placeFrom_ofList (text : List Char) (directory : Place) :
    (Path.mk (String.ofList text)).placeFrom directory =
      (Text.splitOn '/' text).foldl follow (if text.head? = some '/' then [] else directory) := by
  rw [placeFrom, pieces, isAbsolute, String.toList_ofList]
  simp

/-- Some of the pieces of a path, from the first on, are put together to a path that leads where they
lead. -/
theorem placeFrom_firstPieces (p : Path) {kept : List (List Char)} (h : kept <+: p.splitStart.2)
    (directory : Place) :
    (Path.mk (String.ofList (p.splitStart.1 ++ ['/'].intercalate kept))).placeFrom directory =
      kept.foldl follow (p.origin directory) := by
  have hfree : ∀ text : List Char, ∀ piece ∈ Text.splitOn '/' text, '/' ∉ piece :=
    fun text piece hpiece hslash => (Text.of_mem_splitOn hpiece '/' hslash).2 rfl
  rw [placeFrom_ofList]
  cases p.splits with
  | @absolute t text split =>
    rw [split] at h ⊢
    rw [origin, isAbsolute_of_toList text]
    exact foldl_follow_splitOn (fun piece hp => hfree t piece (h.subset hp)) []
  | alone text split =>
    rw [split] at h ⊢
    rw [origin, isAbsolute_of_toList text]
    cases kept with
    | nil => rfl
    | cons first rest =>
      obtain ⟨rfl, hrest⟩ := List.cons_prefix_cons.mp h
      obtain rfl := List.prefix_nil.mp hrest
      rfl
  | @current t text split =>
    rw [split] at h ⊢
    rw [origin, isAbsolute_of_toList text]
    cases kept with
    | nil => rfl
    | cons first rest =>
      obtain ⟨rfl, hrest⟩ := List.cons_prefix_cons.mp h
      cases rest with
      | nil => rfl
      | cons second rest =>
        rw [List.intercalate_cons_cons]
        exact foldl_follow_splitOn (fun piece hp => hfree t piece (hrest.subset hp)) directory
  | relative relative split =>
    rw [split] at h ⊢
    have htext : ['/'].intercalate p.pieces = p.text.toList := List.intercalate_splitOn '/'
    have hhead : (['/'].intercalate kept).head? ≠ some '/' := by
      intro hslash
      obtain ⟨u, hu⟩ := List.head?_eq_some_iff.mp hslash
      obtain ⟨rest, hrest⟩ := intercalate_prefix_intercalate '/' h
      rw [htext, hu] at hrest
      have habsolute := isAbsolute_of_toList hrest.symm
      rw [relative] at habsolute
      cases habsolute
    rw [origin, relative, List.nil_append, if_neg hhead]
    exact foldl_follow_splitOn (fun piece hp => hfree _ piece (h.subset hp)) directory

theorem dropSkippedEnd_concat (ps : List (List Char)) (piece : List Char) :
    dropSkippedEnd (ps ++ [piece]) =
      if isSkipped piece then dropSkippedEnd ps else ps ++ [piece] := by
  unfold dropSkippedEnd
  rw [List.reverse_append, List.reverse_singleton, List.singleton_append, List.dropWhile_cons]
  split
  · rfl
  · rw [List.reverse_cons, List.reverse_reverse]

theorem foldl_follow_dropSkippedEnd (ps : List (List Char)) (place : Place) :
    (dropSkippedEnd ps).foldl follow place = ps.foldl follow place := by
  induction ps using List.reverseRecOn with
  | nil => rfl
  | append_singleton ps piece ih =>
    rw [dropSkippedEnd_concat]
    split
    · next hs =>
      rw [ih, List.foldl_append, List.foldl_cons, List.foldl_nil, follow, if_pos hs]
    · rfl

theorem dropSkippedEnd_prefix_self (ps : List (List Char)) : dropSkippedEnd ps <+: ps := by
  rw [← List.reverse_suffix, dropSkippedEnd, List.reverse_reverse]
  exact List.dropWhile_suffix _

theorem stepsOf_splitStart (p : Path) : stepsOf p.splitStart.2 = stepsOf p.pieces := by
  cases p.splits with
  | absolute text split =>
    rw [split, pieces, text, Text.splitOn_cons, if_pos rfl]
    rfl
  | alone text split =>
    rw [split, pieces, text]
    rfl
  | current text split =>
    rw [split, @pieces_of_slash p ['.'] _ text]
    rfl
  | relative relative split => rw [split]

theorem dropSkippedEnd_cases (ps : List (List Char)) :
    (dropSkippedEnd ps = [] ∧ stepsOf ps = []) ∨
      ∃ before last, dropSkippedEnd ps = before ++ [last] ∧ isSkipped last = false ∧
        stepsOf ps = stepsOf before ++ [componentOf last] := by
  induction ps using List.reverseRecOn with
  | nil => exact .inl ⟨rfl, rfl⟩
  | append_singleton ps piece ih =>
    rw [dropSkippedEnd_concat, stepsOf_append]
    by_cases hs : isSkipped piece = true
    · have hnone : stepsOf [piece] = [] := by simp [stepsOf, hs]
      rw [if_pos hs, hnone, List.append_nil]
      exact ih
    · rw [if_neg hs]
      exact .inr ⟨ps, piece, rfl, by simpa using hs, by simp [stepsOf, hs]⟩

theorem placeFrom_parent {p : Path} {name : String} (h : p.fileName? = some name)
    (directory : Place) :
    p.placeFrom directory = (p.parent?.getD ⟨""⟩).placeFrom directory ++ [name] := by
  have hlast : p.components.getLast? = some (.named name) := by
    unfold fileName? at h
    split at h
    · next heq => rw [heq, Option.some.inj h]
    · cases h
  rw [components_eq, ← stepsOf_splitStart] at hlast
  obtain ⟨-, hnone⟩ | ⟨before, last, hkept, hskipped, hsteps⟩ :=
    dropSkippedEnd_cases p.splitStart.2
  · -- Where a path starts is no entry.
    rw [hnone, List.append_nil, start] at hlast
    split at hlast
    · cases hlast
    · split at hlast
      · cases hlast
      · cases hlast
  · rw [hsteps, ← List.append_assoc, List.getLast?_concat, Option.some_inj, componentOf] at hlast
    have hparent : p.parent? =
        some ⟨String.ofList (p.splitStart.1 ++ ['/'].intercalate (dropSkippedEnd before))⟩ := by
      simp only [parent?, hkept, List.reverse_append, List.reverse_singleton,
        List.singleton_append, List.reverse_reverse]
    have hprefix : dropSkippedEnd before <+: p.splitStart.2 := by
      have hbefore : before <+: dropSkippedEnd p.splitStart.2 := by
        rw [hkept]
        exact List.prefix_append _ _
      exact (dropSkippedEnd_prefix_self before).trans (hbefore.trans (dropSkippedEnd_prefix_self _))
    have hfollow : ∀ place, follow place last = place ++ [name] := by
      intro place
      rw [follow, if_neg (by simp [hskipped])]
      split at hlast
      · cases hlast
      · next hparentPiece =>
        rw [if_neg hparentPiece, Component.named.inj hlast]
    rw [hparent, Option.getD_some, placeFrom_firstPieces p hprefix, placeFrom_eq_splitStart,
      ← foldl_follow_dropSkippedEnd p.splitStart.2, hkept, List.foldl_append, List.foldl_cons,
      List.foldl_nil, hfollow, foldl_follow_dropSkippedEnd]

end FormatterModules.Path
