import FormatterModules.Proofs.Path.Joining
import FormatterModules.Proofs.Text.Pieces
import FormatterModules.Repository

namespace FormatterModules

namespace Coordinate

theorem slash_free_of_all {cs : List Char} (h : cs.all isSegmentChar = true) : '/' ∉ cs :=
  fun hslash => absurd (List.all_eq_true.mp h '/' hslash) (by decide)

theorem isEntryName_of_isSegment {s : String} (h : isSegment s = true) : Path.IsEntryName s := by
  simp only [isSegment, Bool.and_eq_true, bne_iff_ne] at h
  exact ⟨h.1.1.1, h.1.1.2, h.1.2, slash_free_of_all h.2⟩

theorem isSegment_extension (c : Coordinate) : isSegment c.extension = true := by
  unfold extension
  cases h : c.extension? with
  | none => decide
  | some e => exact c.extension_valid e h

theorem isEntryName_of_mem_pieces {s piece : String} (h : isSegment s = true)
    (hpiece : piece ∈ Text.pieces '.' s) : piece = "" ∨ Path.IsEntryName piece := by
  obtain ⟨cs, hcs, rfl⟩ := List.mem_map.mp hpiece
  have hchars := Text.of_mem_splitOn hcs
  have hdot : '.' ∉ cs := fun hmem => (hchars '.' hmem).2 rfl
  have hslash : '/' ∉ cs :=
    fun hmem => (isEntryName_of_isSegment h).slash_free (hchars '/' hmem).1
  by_cases hempty : cs = []
  · exact .inl (by rw [hempty])
  · refine .inr ⟨?_, ?_, ?_, by simpa using hslash⟩
    · simpa using hempty
    · exact fun he => hdot (by rw [← String.toList_ofList (l := cs), he]; decide)
    · exact fun he => hdot (by rw [← String.toList_ofList (l := cs), he]; decide)

theorem isEntryName_fileName (c : Coordinate) : Path.IsEntryName c.fileName := by
  obtain ⟨rest, hname, hrest⟩ : ∃ rest,
      c.fileName.toList = c.artifact.toList ++ '-' :: rest ∧ '/' ∉ rest := by
    have hversion := (isEntryName_of_isSegment c.version_valid).slash_free
    have hextension := (isEntryName_of_isSegment c.isSegment_extension).slash_free
    unfold fileName
    cases h : c.classifier? with
    | none =>
      refine ⟨c.version.toList ++ '.' :: c.extension.toList, by simp, ?_⟩
      simp [hversion, hextension]
    | some classifier =>
      have hclassifier := (isEntryName_of_isSegment (c.classifier_valid classifier h)).slash_free
      refine ⟨c.version.toList ++ '-' :: (classifier.toList ++ '.' :: c.extension.toList),
        by simp, ?_⟩
      simp [hversion, hextension, hclassifier]
  have hhyphen : '-' ∈ c.fileName.toList := by simp [hname]
  refine ⟨?_, ?_, ?_, ?_⟩
  · exact fun he => absurd (he ▸ hhyphen) (by decide)
  · exact fun he => absurd (he ▸ hhyphen) (by decide)
  · exact fun he => absurd (he ▸ hhyphen) (by decide)
  · rw [hname]
    simp [hrest, (isEntryName_of_isSegment c.artifact_valid).slash_free]

/-- The names of the entries on the way to the module of a coordinate. -/
def steps (c : Coordinate) : List String :=
  (Text.pieces '.' c.group).filter (· ≠ "") ++ [c.artifact, c.version, c.fileName]

theorem isEntryName_of_mem_steps (c : Coordinate) : ∀ name ∈ c.steps, Path.IsEntryName name := by
  intro name h
  obtain h | h := List.mem_append.mp h
  · obtain ⟨hpiece, hne⟩ := List.mem_filter.mp h
    exact (isEntryName_of_mem_pieces c.group_valid hpiece).resolve_left (of_decide_eq_true hne)
  · simp only [List.mem_cons, List.not_mem_nil, or_false] at h
    obtain rfl | rfl | rfl := h
    · exact isEntryName_of_isSegment c.artifact_valid
    · exact isEntryName_of_isSegment c.version_valid
    · exact c.isEntryName_fileName

end Coordinate

namespace Repository

theorem pathOf_eq (r : Repository) (c : Coordinate) : r.pathOf c = r.root.joinNames c.steps := by
  have hartifact := Coordinate.isEntryName_of_isSegment c.artifact_valid
  have hversion := Coordinate.isEntryName_of_isSegment c.version_valid
  have hnames : ∀ n ∈ Text.pieces '.' c.group ++ [c.artifact, c.version],
      n = "" ∨ Path.IsEntryName n := by
    intro n h
    obtain h | h := List.mem_append.mp h
    · exact Coordinate.isEntryName_of_mem_pieces c.group_valid h
    · simp only [List.mem_cons, List.not_mem_nil, or_false] at h
      obtain rfl | rfl := h
      · exact .inr hartifact
      · exact .inr hversion
  have hfilter : (Text.pieces '.' c.group ++ [c.artifact, c.version]).filter (· ≠ "") =
      (Text.pieces '.' c.group).filter (· ≠ "") ++ [c.artifact, c.version] := by
    simp [hartifact.ne_empty, hversion.ne_empty]
  calc r.pathOf c
    _ = r.root.joinNames ((Text.pieces '.' c.group ++ [c.artifact, c.version]) ++ [c.fileName]) := by
        rw [List.append_assoc]
        rfl
    _ = r.root.joinNames c.steps := by
        rw [r.root.joinNames_filter hnames c.isEntryName_fileName, hfilter, List.append_assoc]
        rfl

theorem pathOf_eq_of_compare {r : Repository} {c d : Coordinate}
    (h : compare (r.pathOf c) (r.pathOf d) = .eq) : r.pathOf c = r.pathOf d := by
  rw [pathOf_eq, pathOf_eq] at h ⊢
  rw [r.root.joinNames_eq_of_compare c.isEntryName_of_mem_steps d.isEntryName_of_mem_steps h]

end Repository

end FormatterModules
