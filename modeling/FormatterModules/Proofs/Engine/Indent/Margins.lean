import FormatterModules.Engine.Indent
import FormatterModules.Proofs.Text.Size

namespace FormatterModules.Engine.Indentation

open Text

/-- The number of columns in front of a line: the size of a tab for each tab, and one for each space. -/
def width (size : Nat) (content : List Char) : Nat :=
  (leading content).count '\t' * size + (leading content).count ' '

variable {i j : Indentation} {content m : List Char} {size n : Nat} {line : Line} {text : List Char}

theorem isMargin_iff {c : Char} : isMargin c = true ↔ c = ' ' ∨ c = '\t' := by
  simp [isMargin]

theorem isMargin_of_mem_leading {c : Char} (h : c ∈ leading content) : isMargin c = true :=
  List.mem_takeWhile_imp h

theorem leading_append_body (content : List Char) : leading content ++ body content = content :=
  List.takeWhile_append_dropWhile

theorem leading_append (h : ∀ c ∈ m, isMargin c = true) (content : List Char) :
    leading (m ++ body content) = m := by
  have hnone : (content.dropWhile isMargin).takeWhile isMargin = [] :=
    List.takeWhile_eq_nil_iff.mpr (List.dropWhile_get_zero_not isMargin content)
  rw [leading, List.takeWhile_append_of_pos h, body, hnone, List.append_nil]

theorem body_append (h : ∀ c ∈ m, isMargin c = true) (content : List Char) :
    body (m ++ body content) = body content := by
  rw [body, List.dropWhile_append_of_pos h, body, List.dropWhile_idempotent]

theorem columns_eq (h : ∀ c ∈ m, isMargin c = true) (size : Nat) :
    columns size m = m.count '\t' * size + m.count ' ' := by
  induction m with
  | nil => simp [columns]
  | cons c m ih =>
    obtain ⟨hc, hm⟩ := List.forall_mem_cons.mp h
    have hcons : columns size (c :: m) = (if c == '\t' then size else 1) + columns size m := rfl
    rw [hcons, ih hm]
    obtain rfl | rfl := isMargin_iff.mp hc
    · have htabs : (' ' :: m).count '\t' = m.count '\t' := List.count_cons_of_ne (by decide)
      rw [htabs, List.count_cons_self, if_neg (by decide)]
      omega
    · have hspaces : ('\t' :: m).count ' ' = m.count ' ' := List.count_cons_of_ne (by decide)
      rw [hspaces, List.count_cons_self, if_pos (by decide), Nat.add_one_mul]
      omega

theorem isMargin_of_mem_margin {c : Char} (h : c ∈ i.margin n) : isMargin c = true := by
  unfold margin at h
  split at h
  · exact isMargin_iff.mpr (.inl (List.eq_of_mem_replicate h))
  · obtain h | h := List.mem_append.mp h
    · exact isMargin_iff.mpr (.inr (List.eq_of_mem_replicate h))
    · exact isMargin_iff.mpr (.inl (List.eq_of_mem_replicate h))

theorem count_margin (i : Indentation) (n : Nat) :
    (i.margin n).count '\t' * i.size + (i.margin n).count ' ' = n := by
  unfold margin
  split
  · simp [List.count_replicate]
  · simp [List.count_replicate, Nat.div_add_mod']

theorem columns_leading (size : Nat) (content : List Char) :
    columns size (leading content) = width size content :=
  columns_eq (fun _ => isMargin_of_mem_leading) size

theorem realign_eq (i : Indentation) (content : List Char) :
    i.realign content = i.margin (width i.size content) ++ body content := by
  rw [realign, columns_leading]

@[simp] theorem leading_realign (i : Indentation) (content : List Char) :
    leading (i.realign content) = i.margin (width i.size content) := by
  rw [realign_eq, leading_append fun _ => isMargin_of_mem_margin]

@[simp] theorem body_realign (i : Indentation) (content : List Char) :
    body (i.realign content) = body content := by
  rw [realign_eq, body_append fun _ => isMargin_of_mem_margin]

@[simp] theorem width_realign (i : Indentation) (content : List Char) :
    width i.size (i.realign content) = width i.size content := by
  rw [width, leading_realign, count_margin]

/-- A line does not show in which style its margin was written before. -/
theorem realign_realign (h : i.size = j.size) (content : List Char) :
    i.realign (j.realign content) = i.realign content := by
  rw [realign_eq i (j.realign content), realign_eq i content, body_realign, h, width_realign]

theorem width_eq_zero_iff (hsize : 0 < size) : width size content = 0 ↔ leading content = [] := by
  constructor
  · intro h
    obtain ⟨htabs, hspaces⟩ := Nat.add_eq_zero_iff.mp h
    refine List.eq_nil_iff_forall_not_mem.mpr fun c hc => ?_
    obtain rfl | rfl := isMargin_iff.mp (isMargin_of_mem_leading hc)
    · exact List.count_eq_zero.mp hspaces hc
    · exact List.count_eq_zero.mp ((Nat.mul_eq_zero.mp htabs).resolve_right hsize.ne') hc
  · intro h
    simp [width, h]

theorem margin_zero (i : Indentation) : i.margin 0 = [] := by
  unfold margin
  split <;> simp

theorem width_nil (size : Nat) : width size [] = 0 := Nat.zero_mul size

theorem realign_nil (i : Indentation) : i.realign [] = [] := by
  rw [realign_eq, width_nil, margin_zero]
  rfl

/-- Nothing is left of a line only if there was nothing. -/
theorem eq_nil_of_realign_eq_nil (h : i.realign content = []) : content = [] := by
  have hwidth : width i.size content = 0 := by
    rw [← width_realign, h, width_nil]
  have hbody : body content = [] := by
    rw [← body_realign i, h]
    rfl
  rw [← leading_append_body content, (width_eq_zero_iff i.size_pos).mp hwidth, hbody]
  rfl

/-- A line with another margin ends as before, or else in its margin. -/
theorem getLast?_realign {c : Char} (h : (i.realign content).getLast? = some c) :
    isMargin c = true ∨ content.getLast? = some c := by
  rw [realign_eq] at h
  by_cases hbody : body content = []
  · rw [hbody, List.append_nil] at h
    exact .inl (isMargin_of_mem_margin (List.mem_of_getLast? h))
  · rw [List.getLast?_append_of_ne_nil _ hbody] at h
    refine .inr ?_
    rw [← leading_append_body content, List.getLast?_append_of_ne_nil _ hbody, h]

theorem mem_realign {c : Char} (h : c ∈ i.realign content) : isMargin c = true ∨ c ∈ content := by
  rw [realign_eq] at h
  obtain h | h := List.mem_append.mp h
  · exact .inl (isMargin_of_mem_margin h)
  · exact .inr ((List.dropWhile_sublist isMargin).subset h)

theorem isWhole_realigned (i : Indentation) (text : List Char) :
    ∀ line ∈ lines text, (line.mapContent i.realign).IsWhole := by
  intro line hline
  have hwhole := isWhole_of_mem_lines hline
  refine ⟨fun hlf => ?_, fun hterminator hreturn => ?_⟩
  · exact (mem_realign hlf).elim (by decide) hwhole.lf_free
  · exact (getLast?_realign hreturn).elim (by decide) (hwhole.return_free hterminator)

theorem format_format (h : i.size = j.size) (text : List Char) :
    i.format (j.format text) = i.format text := by
  have hsame : i.realign ∘ j.realign = i.realign := funext (realign_realign h)
  rw [format, format, mapContents_mapContents (isWhole_realigned j text) i.realign_nil, hsame, format]

theorem lines_format (i : Indentation) (text : List Char) :
    lines (i.format text) = (lines text).map (Line.mapContent i.realign) :=
  lines_mapContents_of_kept (isWhole_realigned i text) fun _ _ => eq_nil_of_realign_eq_nil

theorem byteSize_margin (i : Indentation) (n : Nat) : byteSize (i.margin n) = i.marginLength n := by
  unfold margin marginLength
  split
  · exact byteSize_replicate (by decide) n
  · rw [byteSize_append, byteSize_replicate (by decide), byteSize_replicate (by decide)]

theorem realignedSize_eq (i : Indentation) (line : Line) :
    i.realignedSize line = byteSize (i.realign line.content) + byteSize line.terminator.chars := by
  rw [realignedSize, realign, byteSize_append, byteSize_margin]

/-- The size of what is written is known before it is written. -/
theorem formattedSize_lines (i : Indentation) (text : List Char) :
    i.formattedSize (lines text) = byteSize (i.format text) := by
  rw [format, mapContents]
  induction lines text with
  | nil => rfl
  | cons line ls ih =>
    have hcons : i.formattedSize (line :: ls) = i.realignedSize line + i.formattedSize ls := rfl
    rw [hcons, ih, realignedSize_eq, List.flatMap_cons, byteSize_append, byteSize_append]

theorem fits_iff : i.fits text = true ↔
    (∀ line ∈ lines text, width i.size line.content < columnBound) ∧
      byteSize (i.format text) ≤ maxByteSize := by
  unfold fits
  rw [Bool.and_eq_true, List.all_eq_true, decide_eq_true_iff, formattedSize_lines]
  simp only [decide_eq_true_iff, columns_leading]

theorem engine_eq_ok_iff {input output : String} :
    i.engine input = .ok output ↔
      (∀ line ∈ lines input.toList, width i.size line.content < columnBound) ∧
        byteSize (i.format input.toList) ≤ maxByteSize ∧ output.toList = i.format input.toList := by
  rw [← and_assoc, ← fits_iff, engine, guarded]
  split
  · next h => simp [h, String.ext_iff, eq_comm]
  · next h => simp [h]

theorem engine_eq_panicked_iff {input : String} :
    i.engine input = .panicked ↔
      ¬ ((∀ line ∈ lines input.toList, width i.size line.content < columnBound) ∧
        byteSize (i.format input.toList) ≤ maxByteSize) := by
  rw [← fits_iff, engine, guarded]
  split
  · next h => simp [h]
  · next h => simp [h]

end FormatterModules.Engine.Indentation
