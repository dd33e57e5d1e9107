import FormatterModules.Coordinate.Template
import FormatterModules.Proofs.Coordinate.Grammar
import FormatterModules.Proofs.Failure.Sequence
import FormatterModules.Proofs.Version.Text

namespace FormatterModules

namespace Text

/-- The second text is the first with the word in the place of some of its zeros. -/
inductive Filled (word : List Char) : List Char → List Char → Prop
  | nil : Filled word [] []
  | same (c : Char) {s t : List Char} (rest : Filled word s t) : Filled word (c :: s) (c :: t)
  | word {s t : List Char} (rest : Filled word s t) : Filled word ('0' :: s) (word ++ t)

namespace Filled

variable {word s t s' t' : List Char}

theorem singleton (word : List Char) : Filled word ['0'] word := by
  have hword : Filled word ['0'] (word ++ []) := .word .nil
  rwa [List.append_nil] at hword

theorem append (h : Filled word s t) (h' : Filled word s' t') :
    Filled word (s ++ s') (t ++ t') := by
  induction h with
  | nil => exact h'
  | same c _ ih => exact .same c ih
  | word _ ih =>
    rw [List.append_assoc]
    exact .word ih

theorem reverse (h : Filled word s t) : Filled word.reverse s.reverse t.reverse := by
  induction h with
  | nil => exact .nil
  | same c _ ih =>
    rw [List.reverse_cons, List.reverse_cons]
    exact ih.append (.same c .nil)
  | word _ ih =>
    rw [List.reverse_cons, List.reverse_append]
    exact ih.append (singleton _)

/-- Every character of the second text is one of the first or of the word. -/
theorem mem_or_mem (h : Filled word s t) {c : Char} (hc : c ∈ t) : c ∈ s ∨ c ∈ word := by
  induction h with
  | nil => cases hc
  | same d _ ih =>
    obtain rfl | hc := List.mem_cons.mp hc
    · exact .inl List.mem_cons_self
    · exact (ih hc).imp_left (List.mem_cons_of_mem d)
  | word _ ih =>
    obtain hc | hc := List.mem_append.mp hc
    · exact .inr hc
    · exact (ih hc).imp_left (List.mem_cons_of_mem '0')

theorem eq_zero_or_mem (h : Filled word s t) {c : Char} (hc : c ∈ s) : c = '0' ∨ c ∈ t := by
  induction h with
  | nil => cases hc
  | same d _ ih =>
    obtain rfl | hc := List.mem_cons.mp hc
    · exact .inr List.mem_cons_self
    · exact (ih hc).imp_right (List.mem_cons_of_mem d)
  | word _ ih =>
    obtain rfl | hc := List.mem_cons.mp hc
    · exact .inl rfl
    · exact (ih hc).imp_right (List.mem_append_right _)

/-- Without a zero in the first text, nothing was replaced. -/
theorem eq_of_zero_notMem (h : Filled word s t) (hzero : '0' ∉ s) : s = t := by
  induction h with
  | nil => rfl
  | same c _ ih => rw [ih fun hmem => hzero (List.mem_cons_of_mem c hmem)]
  | word _ _ => exact absurd List.mem_cons_self hzero

theorem eq_of_subset (h : Filled word s t) (hword : ¬ word ⊆ t) : s = t := by
  induction h with
  | nil => rfl
  | same c _ ih => rw [ih fun hsub => hword (List.subset_cons_of_subset c hsub)]
  | word _ _ => exact absurd (List.subset_append_left _ _) hword

theorem dropWhile {p : Char → Bool} (h : Filled word s t) (hne : word ≠ [])
    (hword : ∀ c ∈ word, p c = false) (hzero : p '0' = false) :
    Filled word (s.dropWhile p) (t.dropWhile p) := by
  induction h with
  | nil => exact .nil
  | same c rest ih =>
    rw [List.dropWhile_cons, List.dropWhile_cons]
    split
    · exact ih
    · exact .same c rest
  | @word s t rest _ =>
    obtain ⟨c, cs, rfl⟩ := List.exists_cons_of_ne_nil hne
    have hhead : p c = false := hword c List.mem_cons_self
    have hsame : ((c :: cs) ++ t).dropWhile p = (c :: cs) ++ t := by
      rw [List.cons_append, List.dropWhile_cons, hhead]
      rfl
    rw [List.dropWhile_cons, hzero, if_neg Bool.false_ne_true, hsame]
    exact .word rest

theorem trim (h : Filled word s t) (hne : word ≠ []) (hword : ∀ c ∈ word, isBlank c = false) :
    Filled word (trim s) (trim t) := by
  have hstart : Filled word (trimStart s) (trimStart t) := h.dropWhile hne hword (by decide)
  have hback := hstart.reverse.dropWhile (p := isBlank) (by simpa using hne)
    (fun c hc => hword c (by simpa using hc)) (by decide)
  have hend := hback.reverse
  rw [List.reverse_reverse] at hend
  exact hend

end Filled

theorem filled_replaceAll (pattern word s : List Char) :
    Filled word (replaceAll pattern ['0'] s) (replaceAll pattern word s) := by
  fun_induction replaceAll pattern word s with
  | case1 =>
    rw [replaceAll]
    exact .nil
  | case2 c rest h ih =>
    rw [replaceAll, if_pos h]
    exact .word ih
  | case3 c rest h ih =>
    rw [replaceAll, if_neg h]
    exact .same c ih

theorem count_replaceAll {pattern word : List Char} {c : Char} (hpattern : c ∉ pattern)
    (hword : c ∉ word) (s : List Char) : (replaceAll pattern word s).count c = s.count c := by
  fun_induction replaceAll pattern word s with
  | case1 => rfl
  | case2 d rest h ih =>
    rw [Bool.and_eq_true, List.isPrefixOf_iff_prefix] at h
    obtain ⟨behind, hsplit⟩ := h.1
    rw [List.count_append, ih, List.count_eq_zero_of_not_mem hword, ← hsplit, List.drop_left,
      List.count_append, List.count_eq_zero_of_not_mem hpattern]
  | case3 d rest h ih => rw [List.count_cons, List.count_cons, ih]

theorem Filled.splitOn {word s t : List Char} {separator : Char} (h : Filled word s t)
    (hword : separator ∉ word) (hzero : separator ≠ '0') :
    List.Forall₂ (Filled word) (splitOn separator s) (splitOn separator t) := by
  have hmodify : ∀ {ps qs : List (List Char)} {u v : List Char}, Filled word u v →
      List.Forall₂ (Filled word) ps qs →
      List.Forall₂ (Filled word) (ps.modifyHead (u ++ ·)) (qs.modifyHead (v ++ ·)) := by
    intro ps qs u v huv hpieces
    cases hpieces with
    | nil => exact .nil
    | cons hp hpieces => exact .cons (huv.append hp) hpieces
  induction h with
  | nil => exact .cons .nil .nil
  | same c _ ih =>
    rw [splitOn_cons, splitOn_cons]
    split
    · exact .cons .nil ih
    · exact hmodify (.same c .nil) ih
  | word _ ih =>
    rw [splitOn_cons, if_neg hzero.symm, splitOn_append_of_notMem hword]
    exact hmodify (.singleton word) ih

end Text

namespace Version

theorem mem_render {v : Version} {c : Char} (h : c ∈ v.render.toList) :
    c = '.' ∨ c.isDigit = true := by
  by_cases hc : c = '.'
  · exact .inl hc
  · obtain ⟨piece, hp, hmem⟩ := Text.exists_mem_splitOn h hc
    rw [splitOn_render] at hp
    obtain ⟨p, -, rfl⟩ := List.mem_map.mp hp
    exact .inr (Text.isDigit_of_mem_decimal hmem)

theorem exists_digit_render (v : Version) : ∃ c ∈ v.render.toList, c.isDigit = true := by
  obtain ⟨p, ps, hparts⟩ := List.exists_cons_of_ne_nil v.parts_ne_nil
  obtain ⟨c, cs, hdigits⟩ : ∃ c cs, Text.decimal p.toNat = c :: cs :=
    List.exists_cons_of_ne_nil Nat.toDigits_ne_nil
  have hc : c ∈ Text.decimal p.toNat := by rw [hdigits]; exact List.mem_cons_self
  have hpiece : Text.decimal p.toNat ∈ Text.splitOn '.' v.render.toList := by
    rw [splitOn_render, hparts]
    exact List.mem_cons_self
  exact ⟨c, (Text.of_mem_splitOn hpiece c hc).1, Text.isDigit_of_mem_decimal hc⟩

theorem render_ne_nil (v : Version) : v.render.toList ≠ [] := by
  obtain ⟨c, hc, -⟩ := v.exists_digit_render
  exact List.ne_nil_of_mem hc

end Version

namespace Coordinate

theorem toNat_of_isDigit {c : Char} (h : c.isDigit = true) : 48 ≤ c.toNat ∧ c.toNat ≤ 57 := by
  simp only [Char.isDigit, Bool.and_eq_true, decide_eq_true_eq] at h
  exact ⟨UInt32.le_iff_toNat_le.mp h.1, UInt32.le_iff_toNat_le.mp h.2⟩

theorem isSegmentChar_of_mem_render {v : Version} {c : Char} (h : c ∈ v.render.toList) :
    isSegmentChar c = true := by
  obtain rfl | hdigit := v.mem_render h
  · decide
  · have hascii : c.toNat < 0x80 := by have := toNat_of_isDigit hdigit; omega
    rw [isSegmentChar, Text.isAlphanumeric, if_pos hascii, Char.isAlphanum, hdigit]
    simp

theorem isBlank_of_mem_render {v : Version} {c : Char} (h : c ∈ v.render.toList) :
    Text.isBlank c = false := by
  obtain rfl | hdigit := v.mem_render h
  · decide
  · have hbounds := toNat_of_isDigit hdigit
    simp only [Text.isBlank, Bool.or_eq_false_iff, Bool.and_eq_false_iff, decide_eq_false_iff_not,
      beq_eq_false_iff_ne]
    omega

theorem ofList_eq_iff_of_filled {v : Version} {s t : List Char}
    (h : Text.Filled v.render.toList s t) (word : String)
    (hword : word.toList.any Char.isDigit = false) :
    String.ofList s = word ↔ String.ofList t = word := by
  rw [List.any_eq_false] at hword
  constructor
  · rintro rfl
    rw [String.toList_ofList] at hword
    rw [h.eq_of_zero_notMem fun hzero => hword '0' hzero (by decide)]
  · rintro rfl
    rw [String.toList_ofList] at hword
    rw [h.eq_of_subset fun hsub => ?_]
    obtain ⟨c, hc, hdigit⟩ := v.exists_digit_render
    exact hword c (hsub hc) hdigit

theorem isSegment_filled_iff {v : Version} {s t : List Char}
    (h : Text.Filled v.render.toList s t) :
    isSegment (String.ofList s) = true ↔ isSegment (String.ofList t) = true := by
  have hchars : (∀ c ∈ s, isSegmentChar c = true) ↔ ∀ c ∈ t, isSegmentChar c = true := by
    constructor
    · exact fun hs c hc => (h.mem_or_mem hc).elim (hs c) isSegmentChar_of_mem_render
    · exact fun ht c hc => (h.eq_zero_or_mem hc).elim (fun hzero => by rw [hzero]; decide) (ht c)
  simp only [isSegment, Bool.and_eq_true, bne_iff_ne, ne_eq, String.toList_ofList,
    List.all_eq_true, hchars, ofList_eq_iff_of_filled h "" (by decide),
    ofList_eq_iff_of_filled h "." (by decide),
    ofList_eq_iff_of_filled h ".." (by decide)]

theorem forall_isSegment_filled_iff {v : Version} {ss ts : List (List Char)}
    (h : List.Forall₂ (Text.Filled v.render.toList) ss ts) :
    (∀ s ∈ ss, isSegment (String.ofList s) = true) ↔
      ∀ t ∈ ts, isSegment (String.ofList t) = true := by
  induction h with
  | nil => exact Iff.rfl
  | cons hfilled _ ih =>
    rw [List.forall_mem_cons, List.forall_mem_cons, isSegment_filled_iff hfilled, ih]

theorem isSome_parse?_ofList {s : List Char} :
    (parse? (String.ofList s)).isSome = true ↔
      3 ≤ (Text.splitOn ':' (Text.trim s)).length ∧ (Text.splitOn ':' (Text.trim s)).length ≤ 5 ∧
        ∀ piece ∈ Text.splitOn ':' (Text.trim s), isSegment (String.ofList piece) = true := by
  rw [parse?, isSome_ofSegments?, Text.trimmed, Text.pieces, String.toList_ofList,
    String.toList_ofList, List.length_map, List.forall_mem_map]

theorem colon_notMem_render (v : Version) : ':' ∉ v.render.toList :=
  fun hcolon => absurd (isSegmentChar_of_mem_render hcolon) (by decide)

/-- A pattern makes a coordinate with a version if and only if it makes one with the version zero. -/
theorem isSome_parse?_fill_iff (pattern : String) (v : Version) :
    (parse? (Template.fill pattern v.render)).isSome = true ↔
      (parse? (Template.fill pattern "0")).isSome = true := by
  have hfilled := Text.filled_replaceAll Template.placeholder.toList v.render.toList pattern.toList
  have htrimmed := hfilled.trim v.render_ne_nil fun c hc => isBlank_of_mem_render hc
  have hpieces := htrimmed.splitOn (colon_notMem_render v) (by decide)
  unfold Template.fill Text.replace
  rw [isSome_parse?_ofList, isSome_parse?_ofList, ← hpieces.length_eq,
    ← forall_isSegment_filled_iff hpieces]
  rfl

namespace Template

variable {patterns : List String} {t : Coordinate.Template}

theorem ofList_eq_ok_iff :
    ofList patterns = .ok t ↔
      patterns ≠ [] ∧ t = ⟨patterns⟩ ∧ ∀ p ∈ patterns, (parse? (fill p "0")).isSome = true := by
  have hvalid : firstInvalid? patterns = none ↔
      ∀ p ∈ patterns, (parse? (fill p "0")).isSome = true := by
    simp [firstInvalid?, Option.isSome_iff_ne_none]
  rw [← hvalid]
  unfold ofList
  by_cases hne : patterns = []
  · simp [hne]
  · cases firstInvalid? patterns with
    | none => simpa [hne] using eq_comm
    | some p => simp [hne]

theorem expandAll_eq_mapM (version : String) (patterns : List String) :
    expandAll version patterns = patterns.mapM fun p => parse (fill p version) := by
  induction patterns with
  | nil => rfl
  | cons p rest ih =>
    rw [expandAll]
    cases hp : parse (fill p version) with
    | error e => rw [Failure.mapM_cons_of_error (f := fun p => parse (fill p version)) hp]
    | ok c => rw [Failure.mapM_cons_of_ok (f := fun p => parse (fill p version)) hp, ih]

/-- A template makes a coordinate of each pattern, in order. -/
theorem expand_eq_ok_iff {v : Version} {coordinates : List Coordinate} :
    t.expand v = .ok coordinates ↔
      List.Forall₂ (fun p c => parse (fill p v.render) = .ok c) t.patterns coordinates := by
  rw [expand, expandAll_eq_mapM, Failure.mapM_eq_ok_iff]

theorem expand_eq_ok (h : ofList patterns = .ok t) (v : Version) :
    ∃ coordinates, t.expand v = .ok coordinates ∧ coordinates ≠ [] := by
  obtain ⟨hne, rfl, hpatterns⟩ := ofList_eq_ok_iff.mp h
  have hvalid : ∀ p ∈ patterns, ∃ c, parse (fill p v.render) = .ok c := fun p hp => by
    simpa only [parse_eq_ok_iff_parse?] using
      Option.isSome_iff_exists.mp ((isSome_parse?_fill_iff p v).mpr (hpatterns p hp))
  obtain ⟨coordinates, hall⟩ := Failure.exists_mapM_eq_ok_iff.mpr hvalid
  refine ⟨coordinates, by rw [expand, expandAll_eq_mapM, hall], ?_⟩
  rintro rfl
  cases Failure.mapM_eq_ok_iff.mp hall
  exact hne rfl

theorem length_segments_of_fill {pattern : String} {v : Version} {c : Coordinate}
    (h : parse (fill pattern v.render) = .ok c) :
    c.segments.length = (Text.pieces ':' pattern).length := by
  have hplaceholder : ':' ∉ placeholder.toList := by decide
  rw [← pieces_render, ← parse_eq_ok_iff.mp h, Text.length_pieces, Text.trimmed,
    String.toList_ofList, Text.count_trim (by decide), fill, Text.replace, String.toList_ofList,
    Text.count_replaceAll hplaceholder (colon_notMem_render v), Text.length_pieces]

end Template

end Coordinate

end FormatterModules
