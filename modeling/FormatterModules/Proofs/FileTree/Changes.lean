import Mathlib.Data.Set.Insert
import FormatterModules.Proofs.Bytes.Utf8
import FormatterModules.Proofs.FileTree.Writing

namespace FormatterModules.FileTree

/-- The second tree has the directories of the first, and the same files outside of some places. -/
structure SameOutside (places : Set Place) (t other : FileTree) : Prop where
  workingDirectory : other.workingDirectory = t.workingDirectory
  directories : ∀ x, t.hasDirectory x = true → other.hasDirectory x = true
  files : ∀ x, x ∉ places → other.file? x = t.file? x

namespace SameOutside

variable {places more : Set Place} {t u v : FileTree}

theorem refl (places : Set Place) (t : FileTree) : SameOutside places t t :=
  ⟨rfl, fun _ h => h, fun _ _ => rfl⟩

theorem trans (h : SameOutside places t u) (h' : SameOutside places u v) :
    SameOutside places t v where
  workingDirectory := h'.workingDirectory.trans h.workingDirectory
  directories x hx := h'.directories x (h.directories x hx)
  files x hx := (h'.files x hx).trans (h.files x hx)

theorem mono (h : SameOutside places t u) (hsub : places ⊆ more) : SameOutside more t u where
  workingDirectory := h.workingDirectory
  directories := h.directories
  files x hx := h.files x fun hmem => hx (hsub hmem)

theorem read_eq_ok (h : SameOutside places t u) {p : Path}
    (hp : p.placeFrom t.workingDirectory ∉ places) {content : ByteArray}
    (hread : t.read p = .ok content) : u.read p = .ok content := by
  obtain ⟨x, hx, hfile⟩ := read_eq_ok_iff.mp hread
  have hplace := place_eq_ok hx
  refine read_eq_ok_iff.mpr ⟨x, place_congr t u h.workingDirectory h.directories hx, ?_⟩
  rw [h.files x (hplace ▸ hp), hfile]

end SameOutside

variable {t other : FileTree} {p : Path} {place : Place} {content : ByteArray}

theorem Grows.sameOutside (h : Grows t other) (places : Set Place) : SameOutside places t other :=
  ⟨h.workingDirectory, fun _ hx => h.hasDirectory hx, fun x _ => h.files x⟩

theorem Replaces.sameOutside (h : Replaces t other p place content) : SameOutside {place} t other :=
  ⟨h.workingDirectory, h.directories, h.others⟩

theorem write_eq_ok (h : t.write p content = .ok other) :
    ∃ x, t.place p = .ok x ∧ t.hasDirectory x ≠ true ∧ other = t.put x (.file content) := by
  unfold write at h
  cases hp : t.place p with
  | error e => rw [hp] at h; cases h
  | ok x =>
    rw [hp] at h
    dsimp only at h
    split at h
    · cases h
    · next hd =>
      split at h
      · cases h
      · split at h
        · cases h
        · exact ⟨x, rfl, hd, (Except.ok.inj h).symm⟩

/-- What is written to a path takes the place of the file there. -/
theorem replaces_of_write (h : t.write p content = .ok other) :
    Replaces t other p (p.placeFrom t.workingDirectory) content := by
  obtain ⟨x, hp, hd, rfl⟩ := write_eq_ok h
  obtain rfl := place_eq_ok hp
  have hne := ne_root_of_not_directory hd
  have hdirectories : ∀ y, t.hasDirectory y = true →
      (t.put (p.placeFrom t.workingDirectory) (.file content)).hasDirectory y = true := by
    intro y hy
    rw [hasDirectory_iff, node?_put t hne, if_neg, hasDirectory_iff.mp hy]
    rintro rfl
    exact hd hy
  refine ⟨rfl, ?_, ?_, ?_, hdirectories⟩
  · exact place_congr t (t.put _ _) rfl hdirectories hp
  · rw [node?_put t hne, if_pos rfl]
  · intro y hy
    rw [file?, node?_put t hne, if_neg hy, file?]

theorem readText_eq_ok_iff {text : String} :
    t.readText p = .ok text ↔ t.read p = .ok (Bytes.ofText text) := by
  unfold readText
  cases hr : t.read p with
  | error e => simp
  | ok bytes =>
    rw [Except.ok.injEq, @eq_comm _ bytes, ← Bytes.decodeUtf8?_eq_some_iff]
    dsimp only
    cases Bytes.decodeUtf8? bytes <;> simp

end FormatterModules.FileTree
