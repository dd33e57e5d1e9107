import FormatterModules.Proofs.Repository.Places

namespace FormatterModules

namespace Coordinate

variable {c d : Coordinate}

def directories (c : Coordinate) : List String := (Text.pieces '.' c.group).filter (· ≠ "")

def ending (c : Coordinate) : String :=
  match c.classifier? with
  | none => "." ++ c.extension
  | some classifier => "-" ++ (classifier ++ "." ++ c.extension)

theorem fileName_eq (c : Coordinate) : c.fileName = c.artifact ++ "-" ++ c.version ++ c.ending := by
  unfold fileName ending
  cases c.classifier? with
  | none => simp only [String.append_assoc]
  | some classifier => simp only [String.append_assoc]

/-- Neither has a classifier and the extensions are the same, or both have one and so is the text of
classifier and extension. -/
def EndsAlike (c d : Coordinate) : Prop :=
  match c.classifier?, d.classifier? with
  | none, none => c.extension = d.extension
  | some k, some l => k ++ "." ++ c.extension = l ++ "." ++ d.extension
  | _, _ => False

/-- The coordinates differ in nothing but the empty parts of the group and the place where the
classifier ends. -/
structure SharesFile (c d : Coordinate) : Prop where
  directories : c.directories = d.directories
  artifact : c.artifact = d.artifact
  version : c.version = d.version
  endings : c.EndsAlike d

theorem dot_append_ne_hyphen_append (s t : String) : "." ++ s ≠ "-" ++ t := by
  intro h
  have hchars := congrArg String.toList h
  simp only [String.toList_append] at hchars
  exact absurd (List.head_eq_of_cons_eq hchars) (by decide)

theorem ending_eq_iff : c.ending = d.ending ↔ c.EndsAlike d := by
  -- Behind the version stands a dot where there is no classifier, and a hyphen where there is one.
  unfold ending EndsAlike
  cases c.classifier? with
  | none =>
    cases d.classifier? with
    | none => exact String.append_right_inj _
    | some l => exact iff_of_false (dot_append_ne_hyphen_append _ _) not_false
  | some k =>
    cases d.classifier? with
    | none => exact iff_of_false (dot_append_ne_hyphen_append _ _).symm not_false
    | some l => exact String.append_right_inj _

theorem steps_eq_iff : c.steps = d.steps ↔ c.SharesFile d := by
  have hsteps : ∀ c : Coordinate, c.steps = c.directories ++ [c.artifact, c.version, c.fileName] :=
    fun _ => rfl
  rw [hsteps, hsteps]
  constructor
  · intro h
    obtain ⟨hdirectories, hnames⟩ := List.append_inj' h rfl
    simp only [List.cons.injEq, and_true] at hnames
    obtain ⟨hartifact, hversion, hfile⟩ := hnames
    rw [fileName_eq, fileName_eq, hartifact, hversion, String.append_right_inj] at hfile
    exact ⟨hdirectories, hartifact, hversion, ending_eq_iff.mp hfile⟩
  · rintro ⟨hdirectories, hartifact, hversion, hendings⟩
    rw [fileName_eq, fileName_eq, hdirectories, hartifact, hversion, ending_eq_iff.mpr hendings]

def HasFullGroup (c : Coordinate) : Prop := "" ∉ Text.pieces '.' c.group

instance (c : Coordinate) : Decidable c.HasFullGroup :=
  inferInstanceAs (Decidable ("" ∉ Text.pieces '.' c.group))

theorem directories_eq_iff (hc : c.HasFullGroup) (hd : d.HasFullGroup) :
    c.directories = d.directories ↔ c.group = d.group := by
  have hpieces : ∀ {c : Coordinate}, c.HasFullGroup → c.directories = Text.pieces '.' c.group := by
    intro c hc
    refine List.filter_eq_self.mpr fun piece hpiece => decide_eq_true fun he => ?_
    exact hc (he ▸ hpiece)
  rw [hpieces hc, hpieces hd]
  exact (Text.pieces_injective '.').eq_iff

/-- Either the extensions or the classifiers of both have no dots. -/
def CutAlike (c d : Coordinate) : Prop :=
  ('.' ∉ c.extension.toList ∧ '.' ∉ d.extension.toList) ∨
    ((∀ k ∈ c.classifier?, '.' ∉ k.toList) ∧ ∀ k ∈ d.classifier?, '.' ∉ k.toList)

instance (c d : Coordinate) : Decidable (c.CutAlike d) :=
  inferInstanceAs (Decidable (('.' ∉ c.extension.toList ∧ '.' ∉ d.extension.toList) ∨
    ((∀ k ∈ c.classifier?, '.' ∉ k.toList) ∧ ∀ k ∈ d.classifier?, '.' ∉ k.toList)))

theorem endsAlike_iff (h : c.CutAlike d) :
    c.EndsAlike d ↔ c.classifier? = d.classifier? ∧ c.extension = d.extension := by
  unfold EndsAlike
  unfold CutAlike at h
  cases hk : c.classifier? with
  | none => cases hl : d.classifier? <;> simp
  | some k =>
    cases hl : d.classifier? with
    | none => simp
    | some l =>
      have hcut : '.' ∉ k.toList ∧ '.' ∉ l.toList ∨
          '.' ∉ c.extension.toList ∧ '.' ∉ d.extension.toList :=
        h.symm.imp_left fun hdots => ⟨hdots.1 k hk, hdots.2 l hl⟩
      simpa [← String.toList_inj] using Text.append_separator_inj hcut

theorem sharesFile_iff (hc : c.HasFullGroup) (hd : d.HasFullGroup) (h : c.CutAlike d) :
    c.SharesFile d ↔ c.group = d.group ∧ c.artifact = d.artifact ∧ c.version = d.version ∧
      c.classifier? = d.classifier? ∧ c.extension = d.extension := by
  rw [← directories_eq_iff hc hd, ← endsAlike_iff h]
  constructor
  · rintro ⟨hdirectories, hartifact, hversion, hendings⟩
    exact ⟨hdirectories, hartifact, hversion, hendings⟩
  · rintro ⟨hdirectories, hartifact, hversion, hendings⟩
    exact ⟨hdirectories, hartifact, hversion, hendings⟩

end Coordinate

namespace Repository

theorem pathOf_eq_iff (r : Repository) (c d : Coordinate) :
    r.pathOf c = r.pathOf d ↔ c.SharesFile d := by
  rw [← Coordinate.steps_eq_iff]
  refine ⟨fun h => ?_, fun h => by rw [pathOf_eq, pathOf_eq, h]⟩
  rw [pathOf_eq, pathOf_eq] at h
  refine r.root.joinNames_eq_of_compare c.isEntryName_of_mem_steps d.isEntryName_of_mem_steps ?_
  rw [h]
  exact Std.ReflCmp.compare_self

/-- The modules of two coordinates have one place in a repository, wherever it lies, if and only if the
coordinates share a file: the groups have the same parts but for empty ones, the artifacts and the
versions are the same, and the names of the files end alike. If no part of a group is empty and dots do
not hide where a classifier ends, then the coordinates are the same, up to an extension that is left
out. -/
theorem same_place_iff (r : Repository) (c d : Coordinate) :
    (compare (r.pathOf c) (r.pathOf d) = .eq ↔ r.pathOf c = r.pathOf d) ∧
    (r.pathOf c = r.pathOf d ↔ c.SharesFile d) ∧
    (c.HasFullGroup → d.HasFullGroup → c.CutAlike d →
      (r.pathOf c = r.pathOf d ↔
        c.group = d.group ∧ c.artifact = d.artifact ∧ c.version = d.version ∧
          c.classifier? = d.classifier? ∧ c.extension = d.extension)) := by
  refine ⟨⟨pathOf_eq_of_compare, fun h => ?_⟩, r.pathOf_eq_iff c d, fun hc hd hcut => ?_⟩
  · rw [h]
    exact Std.ReflCmp.compare_self
  · rw [r.pathOf_eq_iff, Coordinate.sharesFile_iff hc hd hcut]

def shelf : Repository := ⟨⟨"repo"⟩⟩

def plain : Coordinate := (Coordinate.ofSegments? ["g.h", "a", "1"]).get (by decide)

def classified : Coordinate :=
  (Coordinate.ofSegments? ["g.h", "a", "toml", "x", "1"]).get (by decide)

theorem same_place_iff_classified :
    plain.HasFullGroup ∧ classified.HasFullGroup ∧ plain.CutAlike classified ∧
      shelf.pathOf plain ≠ shelf.pathOf classified := by
  have hplain : plain.HasFullGroup := by decide +kernel
  have hclassified : classified.HasFullGroup := by decide +kernel
  have hcut : plain.CutAlike classified := by decide +kernel
  obtain ⟨-, -, hsame⟩ := same_place_iff shelf plain classified
  refine ⟨hplain, hclassified, hcut, fun h => ?_⟩
  obtain ⟨-, -, -, hclassifier, -⟩ := (hsame hplain hclassified hcut).mp h
  exact absurd hclassifier (by decide)

/-- Coordinates that differ in the group, or in the classifier and the extension, have one place. -/
theorem places_shared :
    (∃ c d, Coordinate.parse "g:a:1" = .ok c ∧ Coordinate.parse "g.:a:1" = .ok d ∧
      c.group ≠ d.group ∧ shelf.pathOf c = shelf.pathOf d) ∧
    ∃ c d, Coordinate.parse "g:a:y.z:x:1" = .ok c ∧ Coordinate.parse "g:a:z:x.y:1" = .ok d ∧
      c.classifier? ≠ d.classifier? ∧ c.extension ≠ d.extension ∧
      shelf.pathOf c = shelf.pathOf d := by
  refine ⟨⟨(Coordinate.ofSegments? ["g", "a", "1"]).get (by decide),
      (Coordinate.ofSegments? ["g.", "a", "1"]).get (by decide), ?_⟩,
    (Coordinate.ofSegments? ["g", "a", "y.z", "x", "1"]).get (by decide),
      (Coordinate.ofSegments? ["g", "a", "z", "x.y", "1"]).get (by decide), ?_⟩
  · decide +kernel
  · decide +kernel

end Repository

end FormatterModules
