import FormatterModules.Coordinate
import FormatterModules.Proofs.Text.Blank
import FormatterModules.Proofs.Text.Pieces

namespace FormatterModules.Coordinate

/-- A name that can stand in a path. -/
structure IsName (s : String) : Prop where
  ne_empty : s ≠ ""
  ne_current : s ≠ "."
  ne_parent : s ≠ ".."
  chars : ∀ c ∈ s.toList, Text.isAlphanumeric c = true ∨ c = '-' ∨ c = '_' ∨ c = '.'

/-- The text is made of three to five names with colons between them. -/
structure IsWritten (s : String) (names : List String) : Prop where
  text_eq : s = Text.join ":" names
  three_le : 3 ≤ names.length
  le_five : names.length ≤ 5
  isName : ∀ name ∈ names, IsName name

variable {s : String} {c d : Coordinate} {names : List String}

theorem isSegment_iff : isSegment s = true ↔ IsName s := by
  simp only [isSegment, Bool.and_eq_true, bne_iff_ne, List.all_eq_true, isSegmentChar,
    Bool.or_eq_true, beq_iff_eq, or_assoc]
  constructor
  · rintro ⟨⟨⟨hempty, hcurrent⟩, hparent⟩, hchars⟩
    exact ⟨hempty, hcurrent, hparent, hchars⟩
  · rintro ⟨hempty, hcurrent, hparent, hchars⟩
    exact ⟨⟨⟨hempty, hcurrent⟩, hparent⟩, hchars⟩

theorem isSegmentChar_of_mem (h : isSegment s = true) {x : Char} (hx : x ∈ s.toList) :
    isSegmentChar x = true := by
  simp only [isSegment, Bool.and_eq_true, List.all_eq_true] at h
  exact h.2 x hx

theorem colon_free (h : isSegment s = true) : ':' ∉ s.toList :=
  fun hcolon => absurd (isSegmentChar_of_mem h hcolon) (by decide)

theorem isBlank_of_isSegmentChar {x : Char} (h : isSegmentChar x = true) :
    Text.isBlank x = false := by
  -- There are 25 blank characters, none of which is alphanumeric.
  have hblanks : ∀ n ∈ [0x20, 0x85, 0xA0, 0x1680, 0x2028, 0x2029, 0x202F, 0x205F, 0x3000] ++
      List.range' 9 5 ++ List.range' 0x2000 11, isSegmentChar (Char.ofNat n) = false := by
    decide +kernel
  refine eq_false_of_ne_true fun hblank => ?_
  have hmem : x.toNat ∈ [0x20, 0x85, 0xA0, 0x1680, 0x2028, 0x2029, 0x202F, 0x205F, 0x3000] ++
      List.range' 9 5 ++ List.range' 0x2000 11 := by
    simp only [Text.isBlank, Bool.or_eq_true, Bool.and_eq_true, decide_eq_true_eq, beq_iff_eq]
      at hblank
    simp only [List.mem_append, List.mem_cons, List.not_mem_nil, or_false, List.mem_range'_1]
    omega
  have hfalse := hblanks x.toNat hmem
  rw [Char.ofNat_toNat, h] at hfalse
  cases hfalse

theorem segments_of_ofSegments? (h : ofSegments? names = some c) : c.segments = names := by
  unfold ofSegments? at h
  split at h
  · split at h
    · cases h
      rfl
    · cases h
  · split at h
    · cases h
      rfl
    · cases h
  · split at h
    · cases h
      rfl
    · cases h
  · cases h

theorem isSome_ofSegments? :
    (ofSegments? names).isSome = true ↔
      3 ≤ names.length ∧ names.length ≤ 5 ∧ ∀ s ∈ names, isSegment s = true := by
  unfold ofSegments?
  split
  · split <;> simp_all
  · split <;> simp_all
  · split <;> simp_all
  · next hthree hfour hfive =>
    have hlength : ¬ (3 ≤ names.length ∧ names.length ≤ 5) := by
      rintro ⟨hlow, hhigh⟩
      match names, hlow, hhigh with
      | [a, b, c], _, _ => exact hthree a b c rfl
      | [a, b, c, d], _, _ => exact hfour a b c d rfl
      | [a, b, c, d, e], _, _ => exact hfive a b c d e rfl
    simp only [Option.isSome_none, Bool.false_eq_true, false_iff]
    exact fun h => hlength ⟨h.1, h.2.1⟩

theorem ofSegments?_segments (c : Coordinate) : ofSegments? c.segments = some c := by
  obtain ⟨group, artifact, extension?, classifier?, version, hgroup, hartifact, hextension,
    hclassifier, hversion, hbehind⟩ := c
  cases extension? with
  | none =>
    cases classifier? with
    | none => simp [segments, ofSegments?, *]
    | some classifier => cases hbehind rfl
  | some extension =>
    have hextension : isSegment extension = true := hextension extension rfl
    cases classifier? with
    | none => simp [segments, ofSegments?, *]
    | some classifier =>
      have hclassifier : isSegment classifier = true := hclassifier classifier rfl
      simp [segments, ofSegments?, *]

theorem segments_valid (c : Coordinate) :
    3 ≤ c.segments.length ∧ c.segments.length ≤ 5 ∧ ∀ s ∈ c.segments, isSegment s = true :=
  isSome_ofSegments?.mp (by rw [c.ofSegments?_segments]; rfl)

theorem pieces_render (c : Coordinate) : Text.pieces ':' c.render = c.segments := by
  obtain ⟨hlength, -, hsegments⟩ := c.segments_valid
  refine Text.pieces_join rfl ?_ fun s hs => colon_free (hsegments s hs)
  exact List.ne_nil_of_length_pos (by omega)

theorem trimmed_render (c : Coordinate) : Text.trimmed c.render = c.render := by
  have hblank : ∀ x ∈ c.render.toList, Text.isBlank x = false := by
    intro x hx
    by_cases hcolon : x = ':'
    · rw [hcolon]
      decide
    · obtain ⟨piece, hpiece, hmem⟩ := Text.exists_mem_splitOn hx hcolon
      have hsegment : String.ofList piece ∈ c.segments := by
        rw [← pieces_render]
        exact List.mem_map_of_mem hpiece
      obtain ⟨-, -, hsegments⟩ := c.segments_valid
      exact isBlank_of_isSegmentChar
        (isSegmentChar_of_mem (hsegments _ hsegment) (by simpa using hmem))
  rw [Text.trimmed, Text.trim_of_forall_not_blank hblank, String.ofList_toList]

theorem render_of_parse? (h : parse? s = some c) : c.render = Text.trimmed s := by
  rw [render, segments_of_ofSegments? h]
  exact Text.join_pieces rfl _

theorem parse?_eq_some_iff : parse? s = some c ↔ Text.trimmed s = c.render := by
  refine ⟨fun h => (render_of_parse? h).symm, fun h => ?_⟩
  rw [parse?, h, pieces_render, ofSegments?_segments]

theorem parse_eq_ok_iff_parse? : parse s = .ok c ↔ parse? s = some c := by
  rw [parse]
  cases parse? s <;> simp

theorem parse_eq_ok_iff : parse s = .ok c ↔ Text.trimmed s = c.render := by
  rw [parse_eq_ok_iff_parse?, parse?_eq_some_iff]

theorem render_injective : Function.Injective render := by
  intro c d h
  have hparse : parse? c.render = some d := parse?_eq_some_iff.mpr (by rw [trimmed_render, h])
  exact Option.some.inj ((parse?_eq_some_iff.mpr c.trimmed_render).symm.trans hparse)

theorem isWritten_iff : IsWritten s names ↔ ∃ c : Coordinate, c.render = s ∧ c.segments = names := by
  constructor
  · rintro ⟨rfl, hlow, hhigh, hnames⟩
    have hsome : (ofSegments? names).isSome = true :=
      isSome_ofSegments?.mpr ⟨hlow, hhigh, fun s hs => isSegment_iff.mpr (hnames s hs)⟩
    obtain ⟨c, hc⟩ := Option.isSome_iff_exists.mp hsome
    have hsegments := segments_of_ofSegments? hc
    exact ⟨c, by rw [render, hsegments], hsegments⟩
  · rintro ⟨c, rfl, rfl⟩
    obtain ⟨hlow, hhigh, hsegments⟩ := c.segments_valid
    exact ⟨rfl, hlow, hhigh, fun s hs => isSegment_iff.mp (hsegments s hs)⟩

/-- A text is read as a coordinate if and only if, without the blanks around it, it is made of three
to five names with colons between them. These are the segments of the coordinate, its text is the text
without those blanks, and it is read from no other. So a coordinate reads back from its text, and
coordinates are the same if their texts are. -/
theorem parses_joined_names (s : String) :
    ((∃ c, parse s = .ok c) ↔ ∃ names, IsWritten (Text.trimmed s) names) ∧
    (∀ names, IsWritten (Text.trimmed s) names → ∃ c, parse s = .ok c ∧ c.segments = names) ∧
    (∀ c, parse s = .ok c → toString c = Text.trimmed s ∧ parse (toString c) = .ok c) ∧
    (∀ t c, parse s = .ok c → (parse t = .ok c ↔ Text.trimmed t = Text.trimmed s)) ∧
    ∀ c d : Coordinate, c = d ↔ toString c = toString d := by
  have hwritten : ∀ names, IsWritten (Text.trimmed s) names →
      ∃ c, parse s = .ok c ∧ c.segments = names := by
    intro names h
    obtain ⟨c, hrender, hsegments⟩ := isWritten_iff.mp h
    exact ⟨c, parse_eq_ok_iff.mpr hrender.symm, hsegments⟩
  refine ⟨⟨?_, ?_⟩, hwritten, ?_, ?_, fun c d => render_injective.eq_iff.symm⟩
  · rintro ⟨c, hc⟩
    exact ⟨c.segments, isWritten_iff.mpr ⟨c, (parse_eq_ok_iff.mp hc).symm, rfl⟩⟩
  · rintro ⟨names, h⟩
    obtain ⟨c, hc, -⟩ := hwritten names h
    exact ⟨c, hc⟩
  · exact fun c hc => ⟨(parse_eq_ok_iff.mp hc).symm, parse_eq_ok_iff.mpr c.trimmed_render⟩
  · intro t c hc
    rw [parse_eq_ok_iff, parse_eq_ok_iff.mp hc]

theorem parses_joined_names_five :
    ∃ c, parse " g.h:a:toml:x:1\n" = .ok c ∧ c.segments = ["g.h", "a", "toml", "x", "1"] ∧
      toString c = "g.h:a:toml:x:1" ∧ parse (toString c) = .ok c ∧
      parse "\tg.h:a:toml:x:1" = .ok c := by
  obtain ⟨-, hread, hback, hsame, -⟩ := parses_joined_names " g.h:a:toml:x:1\n"
  have htrimmed : Text.trimmed " g.h:a:toml:x:1\n" = "g.h:a:toml:x:1" := by decide +kernel
  have hsegments : ∀ s ∈ ["g.h", "a", "toml", "x", "1"], isSegment s = true := by decide
  have hwritten : IsWritten (Text.trimmed " g.h:a:toml:x:1\n") ["g.h", "a", "toml", "x", "1"] :=
    ⟨htrimmed, by decide, by decide, fun s hs => isSegment_iff.mp (hsegments s hs)⟩
  obtain ⟨c, hc, hnames⟩ := hread _ hwritten
  obtain ⟨htext, hagain⟩ := hback c hc
  exact ⟨c, hc, hnames, htext.trans htrimmed, hagain, (hsame _ c hc).mpr (by decide +kernel)⟩

end FormatterModules.Coordinate
