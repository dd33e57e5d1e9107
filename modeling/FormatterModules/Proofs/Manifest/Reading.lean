import FormatterModules.Manifest

namespace FormatterModules.Manifest

/-- The text is that of a manifest whose declarations are valid. -/
def IsWellFormed (content : String) : Prop := ∃ m, decode? content = some m ∧ m.isValid = true

instance (content : String) : Decidable (IsWellFormed content) :=
  decidable_of_iff ((decode? content).any isValid = true) (Option.any_eq_true _ _)

def declarationsIn (content : String) : List Declaration :=
  ((decode? content).map Manifest.classes).getD []

variable {origin content : String} {m : Manifest}

theorem parse_eq_ok_iff :
    parse origin content = .ok m ↔ decode? content = some m ∧ m.isValid = true := by
  unfold parse
  cases decode? content with
  | none => simp
  | some m' =>
    by_cases hv : m'.isValid = true
    · simp only [hv, if_true, Except.ok.injEq, Option.some.injEq]
      refine ⟨fun h => ⟨h, h ▸ hv⟩, And.left⟩
    · simp only [hv, Option.some.injEq]
      refine iff_of_false nofun ?_
      rintro ⟨rfl, hm⟩
      exact hv hm

theorem exists_parse_eq_ok_iff : (∃ m, parse origin content = .ok m) ↔ IsWellFormed content := by
  simp only [parse_eq_ok_iff, IsWellFormed]

theorem parse_ok_of_parse_ok {origin' : String} (h : parse origin content = .ok m) :
    parse origin' content = .ok m :=
  parse_eq_ok_iff.mpr (parse_eq_ok_iff.mp h)

theorem decode?_of_parse (h : parse origin content = .ok m) : decode? content = some m :=
  (parse_eq_ok_iff.mp h).1

theorem declarationsIn_of_parse (h : parse origin content = .ok m) :
    declarationsIn content = m.classes := by
  rw [declarationsIn, decode?_of_parse h]
  rfl

theorem exists_details_of_parse_eq_error {e : Failure} (h : parse origin content = .error e) :
    ∃ details, e = .parse origin details ∧
      ∀ other, parse other content = .error (.parse other details) := by
  unfold parse at h ⊢
  cases hd : decode? content with
  | none =>
    rw [hd] at h
    cases h
    exact ⟨_, rfl, fun _ => rfl⟩
  | some m =>
    rw [hd] at h
    by_cases hv : m.isValid
    · simp [hv] at h
    · simp only [hv] at h ⊢
      cases h
      exact ⟨_, rfl, fun _ => rfl⟩

end FormatterModules.Manifest
