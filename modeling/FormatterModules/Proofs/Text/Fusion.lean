import FormatterModules.Proofs.Text.MappedLines

namespace FormatterModules.Text

def endings (text : List Char) : List Char := mapContents (fun _ => []) text

variable {g : List Char → List Char} {s text : List Char} {line : Line} {ls : List Line}

theorem endings_append (h : '\n' ∉ s) (rest : List Char) :
    endings (s ++ '\n' :: rest) = (Line.closed s).terminator.chars ++ endings rest := by
  unfold endings mapContents
  rw [lines_append h, List.flatMap_cons, List.nil_append]

theorem endings_chars_append (h : line.IsWhole) (hended : line.terminator ≠ .none)
    (rest : List Char) : endings (line.chars ++ rest) = line.terminator.chars ++ endings rest := by
  obtain ⟨s, hs, rfl⟩ := h.exists_closed hended
  rw [Line.chars_closed, List.append_assoc]
  exact endings_append hs rest

theorem endings_chars_append_of_return (hlf : '\n' ∉ line.content) (hend : line.terminator = .lf)
    (hreturn : line.content.getLast? = some '\r') (rest : List Char) :
    endings (line.chars ++ rest) = Terminator.crlf.chars ++ endings rest := by
  have hclosed : (Line.closed line.content).terminator = .crlf := if_pos hreturn
  rw [Line.chars, hend, List.append_assoc, ← hclosed]
  exact endings_append hlf rest

theorem isWhole_of_endings_unlines (hlf : ∀ line ∈ ls, '\n' ∉ line.content)
    (hended : ∀ line ∈ ls.dropLast, line.terminator ≠ .none)
    (h : endings (unlines ls) = ls.flatMap fun line => line.terminator.chars) :
    ∀ line ∈ ls, line.IsWhole := by
  induction ls with
  | nil => exact List.forall_mem_nil _
  | cons line ls ih =>
    obtain ⟨hline, hls⟩ := List.forall_mem_cons.mp hlf
    rw [unlines_cons, List.flatMap_cons] at h
    have hwhole : line.IsWhole := by
      refine ⟨hline, fun hend hreturn => ?_⟩
      rw [endings_chars_append_of_return hline hend hreturn, hend] at h
      exact absurd (List.cons.inj h).1 (by decide)
    refine List.forall_mem_cons.mpr ⟨hwhole, ?_⟩
    -- only a line with another behind it is known to end
    cases ls with
    | nil => exact List.forall_mem_nil _
    | cons next ls =>
      obtain ⟨hendline, hendrest⟩ := List.forall_mem_cons.mp hended
      rw [endings_chars_append hwhole hendline] at h
      exact ih hls hendrest (List.append_cancel_left h)

theorem isWhole_of_endings_mapContents (hlf : ∀ line ∈ lines text, '\n' ∉ g line.content)
    (h : endings (mapContents g text) = endings text) :
    ∀ line ∈ lines text, (line.mapContent g).IsWhole := by
  have hlines : endings (unlines ((lines text).map (Line.mapContent g))) =
      ((lines text).map (Line.mapContent g)).flatMap fun line => line.terminator.chars := by
    rw [← mapContents_eq, h, List.flatMap_map]
    rfl
  exact List.forall_mem_map.mp (isWhole_of_endings_unlines (List.forall_mem_map.mpr hlf)
    (fun _ => ended_of_mem_dropLast_map) hlines)

theorem mapContents_id (text : List Char) : mapContents id text = text :=
  unlines_lines text

/-- Let the first of two changes put no line feed into a line. Then it and any second change that makes
nothing of an empty line are one change if and only if no line that ends in a mere line feed is given a
carriage return before it. The change that keeps each line keeps the text. -/
theorem line_changes_fuse :
    (∀ (g : List Char → List Char) (text : List Char), (∀ line ∈ lines text, '\n' ∉ g line.content) →
      ((∀ f : List Char → List Char, f [] = [] →
          mapContents f (mapContents g text) = mapContents (f ∘ g) text) ↔
        ∀ line ∈ lines text, line.terminator = .lf → (g line.content).getLast? ≠ some '\r')) ∧
      ∀ text, mapContents id text = text := by
  refine ⟨fun g text hlf => ⟨fun hfuse line hline => ?_, fun hreturn f hnil => ?_⟩, mapContents_id⟩
  · have hends : endings (mapContents g text) = endings text := hfuse (fun _ => []) rfl
    exact (isWhole_of_endings_mapContents hlf hends line hline).return_free
  · exact mapContents_mapContents (fun line hline => ⟨hlf line hline, hreturn line hline⟩) hnil

/-- Lines with all ends. One has carriage returns of its own, and the last has a single character. -/
def assortedText : List Char := "ab\n\rc\r\r\n\n\t".toList

theorem line_changes_fuse_assorted :
    (∀ line ∈ lines assortedText, '\n' ∉ line.content.drop 1) ∧
      (∀ line ∈ lines assortedText, line.terminator = .lf →
        (line.content.drop 1).getLast? ≠ some '\r') ∧
      mapContents (fun s => s ++ s) (mapContents (List.drop 1) assortedText) =
        mapContents ((fun s => s ++ s) ∘ List.drop 1) assortedText ∧
      mapContents ((fun s => s ++ s) ∘ List.drop 1) assortedText = "bb\nc\rc\r\r\n\n".toList ∧
      mapContents id assortedText = assortedText := by
  have hlf : ∀ line ∈ lines assortedText, '\n' ∉ line.content.drop 1 := by decide
  have hreturn : ∀ line ∈ lines assortedText, line.terminator = .lf →
      (line.content.drop 1).getLast? ≠ some '\r' := by decide
  obtain ⟨hfuse, hid⟩ := line_changes_fuse
  have hboth := (hfuse (List.drop 1) assortedText hlf).mpr hreturn (fun s => s ++ s) rfl
  exact ⟨hlf, hreturn, hboth, by decide, hid assortedText⟩

example : mapContents (fun _ => []) (mapContents (· ++ ['\r']) ['a', '\n']) = ['\r', '\n'] ∧
    mapContents ((fun _ => []) ∘ (· ++ ['\r'])) ['a', '\n'] = ['\n'] := by decide

end FormatterModules.Text
