import FormatterModules.Proofs.Text.MappedLines
import FormatterModules.Text.Size

namespace FormatterModules.Text

variable {f g : List Char → List Char} {s t : List Char}

@[simp] theorem byteSize_nil : byteSize [] = 0 := rfl

@[simp] theorem byteSize_append (s t : List Char) : byteSize (s ++ t) = byteSize s + byteSize t := by
  rw [byteSize, String.ofList_append, String.utf8ByteSize_append, byteSize, byteSize]

theorem byteSize_cons (c : Char) (s : List Char) : byteSize (c :: s) = c.utf8Size + byteSize s := by
  rw [byteSize, String.ofList_cons, String.utf8ByteSize_append, String.utf8ByteSize_singleton, byteSize]

theorem byteSize_replicate {c : Char} (h : c.utf8Size = 1) (n : Nat) :
    byteSize (List.replicate n c) = n := by
  induction n with
  | zero => rfl
  | succ n ih => rw [List.replicate_succ, byteSize_cons, h, ih, Nat.add_comm]

theorem byteSize_le_of_isPrefix (h : s <+: t) : byteSize s ≤ byteSize t := by
  obtain ⟨rest, rfl⟩ := h
  rw [byteSize_append]
  exact Nat.le_add_right _ _

theorem byteSize_mapContents_le (h : ∀ s, byteSize (f s) ≤ byteSize (g s)) (text : List Char) :
    byteSize (mapContents f text) ≤ byteSize (mapContents g text) := by
  unfold mapContents
  induction lines text with
  | nil => exact Nat.le_refl 0
  | cons line ls ih =>
    rw [List.flatMap_cons, List.flatMap_cons]
    simp only [byteSize_append]
    exact Nat.add_le_add (Nat.add_le_add_right (h line.content) _) ih

end FormatterModules.Text
