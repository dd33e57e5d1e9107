import FormatterModules.Proofs.Version.Order

namespace FormatterModules

namespace Text

variable {pattern : List Char}

theorem replaceAll_of_not_infix {s : List Char} (h : ¬ pattern <:+: s) (word : List Char) :
    replaceAll pattern word s = s := by
  fun_induction replaceAll pattern word s with
  | case1 => rfl
  | case2 c rest hmatch ih =>
    rw [Bool.and_eq_true, List.isPrefixOf_iff_prefix] at hmatch
    exact absurd hmatch.1.isInfix h
  | case3 c rest hmatch ih => rw [ih fun hrest => h (List.infix_cons hrest)]

theorem exists_count_replaceAll (hne : pattern ≠ []) (c : Char) (s : List Char) :
    ∃ k r, (pattern <:+: s → 0 < k) ∧
      ∀ word, (replaceAll pattern word s).count c = r + k * word.count c := by
  fun_induction replaceAll pattern [] s with
  | case1 =>
    refine ⟨0, 0, fun h => absurd (List.infix_nil.mp h) hne, fun word => ?_⟩
    rw [replaceAll]
    simp
  | case2 d rest hmatch ih =>
    obtain ⟨k, r, -, hcount⟩ := ih
    refine ⟨k + 1, r, fun _ => Nat.succ_pos k, fun word => ?_⟩
    rw [replaceAll, if_pos hmatch, List.count_append, hcount, Nat.succ_mul]
    omega
  | case3 d rest hmatch ih =>
    obtain ⟨k, r, hk, hcount⟩ := ih
    refine ⟨k, r + if d == c then 1 else 0, fun h => ?_, fun word => ?_⟩
    · obtain hfirst | hrest := List.infix_cons_iff.mp h
      · simp [hfirst, hne] at hmatch
      · exact hk hrest
    · rw [replaceAll, if_neg hmatch, List.count_cons, hcount]
      omega

end Text

namespace Version

variable {v w : Version}

theorem count_dot_render (v : Version) : v.render.toList.count '.' + 1 = v.parts.length := by
  rw [← Text.length_splitOn, splitOn_render, List.length_map]

theorem eq_of_beq_of_length (h : (v == w) = true) (hlength : v.parts.length = w.parts.length) :
    v = w := by
  obtain ⟨m, n, hpadded⟩ := beq_iff_padded.mp h
  have hparts : v.parts ++ List.replicate m 0 = w.parts ++ List.replicate n 0 :=
    congrArg parts hpadded
  exact Version.ext (List.append_inj_left hparts hlength)

end Version

namespace Coordinate

namespace Template

variable {v w : Version} {patterns : List String}

/-- The pattern has a place for the version. -/
def HasPlaceholder (pattern : String) : Prop := placeholder.toList <:+: pattern.toList

instance : DecidablePred HasPlaceholder := fun pattern =>
  inferInstanceAs (Decidable (placeholder.toList <:+: pattern.toList))

theorem expandAll_eq_ok_iff {version : String} {coordinates : List Coordinate} :
    expandAll version patterns = .ok coordinates ↔
      patterns.map (fun p => parse? (fill p version)) = coordinates.map some := by
  rw [expandAll_eq_mapM, Failure.mapM_eq_ok_iff, ← List.forall₂_eq_eq_eq,
    List.forall₂_map_left_iff, List.forall₂_map_right_iff]
  simp only [parse_eq_ok_iff_parse?]

theorem fill_of_not_hasPlaceholder {pattern : String} (h : ¬ HasPlaceholder pattern)
    (version : String) : fill pattern version = pattern := by
  rw [fill, Text.replace, Text.replaceAll_of_not_infix h, String.ofList_toList]

theorem count_dot_of_parse?_fill {pattern version : String} {c : Coordinate}
    (h : parse? (fill pattern version) = some c) :
    c.render.toList.count '.' =
      (Text.replaceAll placeholder.toList version.toList pattern.toList).count '.' := by
  rw [render_of_parse? h, Text.trimmed, String.toList_ofList, Text.count_trim (by decide), fill,
    Text.replace, String.toList_ofList]

theorem length_parts_eq {pattern : String} (hpattern : HasPlaceholder pattern) {c : Coordinate}
    (hv : parse? (fill pattern v.render) = some c) (hw : parse? (fill pattern w.render) = some c) :
    v.parts.length = w.parts.length := by
  have hne : placeholder.toList ≠ [] := by decide
  obtain ⟨k, r, hk, hcount⟩ := Text.exists_count_replaceAll hne '.' pattern.toList
  have hsame := (count_dot_of_parse?_fill hv).symm.trans (count_dot_of_parse?_fill hw)
  rw [hcount, hcount] at hsame
  have hdots : v.render.toList.count '.' = w.render.toList.count '.' :=
    Nat.eq_of_mul_eq_mul_left (hk hpattern) (Nat.add_left_cancel hsame)
  rw [← v.count_dot_render, ← w.count_dot_render, hdots]

/-- A template makes the same coordinates of equal versions if and only if they are spelled alike or no
pattern has a placeholder. -/
theorem expand_eq_iff {t : Coordinate.Template} (h : ofList patterns = .ok t)
    (hvw : (v == w) = true) :
    t.expand v = t.expand w ↔ v = w ∨ ∀ p ∈ patterns, ¬ HasPlaceholder p := by
  obtain ⟨-, rfl, hvalid⟩ := ofList_eq_ok_iff.mp h
  constructor
  · intro hexpand
    by_cases hplain : ∀ p ∈ patterns, ¬ HasPlaceholder p
    · exact .inr hplain
    · left
      push Not at hplain
      obtain ⟨p, hp, hpattern⟩ := hplain
      obtain ⟨coordinates, hcoordinates, -⟩ := expand_eq_ok h v
      have hfills := (expandAll_eq_ok_iff.mp hcoordinates).trans
        (expandAll_eq_ok_iff.mp (hexpand.symm.trans hcoordinates)).symm
      have hfill := List.map_inj_left.mp hfills p hp
      obtain ⟨c, hc⟩ := Option.isSome_iff_exists.mp ((isSome_parse?_fill_iff p v).mpr (hvalid p hp))
      exact Version.eq_of_beq_of_length hvw (length_parts_eq hpattern hc (hfill ▸ hc))
  · rintro (rfl | hplain)
    · rfl
    · have hfills : ∀ p ∈ patterns, fill p v.render = fill p w.render := fun p hp => by
        rw [fill_of_not_hasPlaceholder (hplain p hp), fill_of_not_hasPlaceholder (hplain p hp)]
      obtain ⟨coordinates, hv, -⟩ := expand_eq_ok h v
      have hw : expandAll w.render patterns = .ok coordinates := by
        rw [expandAll_eq_ok_iff, ← expandAll_eq_ok_iff.mp hv]
        exact List.map_congr_left fun p hp => by rw [hfills p hp]
      exact hv.trans hw.symm

end Template

end Coordinate

end FormatterModules
