import FormatterModules.Proofs.Text.Decimal
import FormatterModules.Proofs.Text.Pieces
import FormatterModules.Proofs.Version.Text
import Mathlib.Data.List.Forall2

namespace FormatterModules.Version

open Text

/-- Decimal digits, at least one, and the number of 32 bits that they stand for. -/
structure Denotes (digits : List Char) (n : Nat) : Prop where
  ne_nil : digits ≠ []
  isDigit : ∀ c ∈ digits, c.isDigit = true
  value : Nat.ofDigitChars 10 digits 0 = n
  bound : n ≤ 4294967295

/-- Digits behind at most one plus sign. -/
def DenotesSigned (s : List Char) (n : Nat) : Prop :=
  ∃ digits, (s = digits ∨ s = '+' :: digits) ∧ Denotes digits n

/-- Texts joined by single dots, each of which stands for its number. There is at least one. -/
def Dotted (R : List Char → Nat → Prop) (s : String) (numbers : List Nat) : Prop :=
  numbers ≠ [] ∧ ∃ texts, s.toList = ['.'].intercalate texts ∧ List.Forall₂ R texts numbers

variable {s : List Char} {n : Nat}

theorem mapM_eq_some_iff {α β : Type} {f : α → Option β} {as : List α} {bs : List β} :
    as.mapM f = some bs ↔ List.Forall₂ (fun a b => f a = some b) as bs := by
  induction as generalizing bs with
  | nil => cases bs <;> simp
  | cons a as ih =>
    cases bs with
    | nil => simp [List.mapM_cons, Option.bind_eq_some_iff]
    | cons b bs => simp [List.mapM_cons, Option.bind_eq_some_iff, ih]

theorem mem_intercalate_iff {separator c : Char} {texts : List (List Char)} (hc : c ≠ separator) :
    c ∈ [separator].intercalate texts ↔ ∃ text ∈ texts, c ∈ text := by
  induction texts with
  | nil => simp [List.intercalate]
  | cons text texts ih =>
    cases texts with
    | nil => simp [List.intercalate]
    | cons next texts =>
      rw [List.intercalate_cons_cons, List.mem_append, List.mem_append, ih]
      simp [hc]

theorem denotes_iff_signed : Denotes s n ↔ '+' ∉ s ∧ DenotesSigned s n := by
  constructor
  · intro h
    exact ⟨fun hplus => absurd (h.isDigit '+' hplus) (by decide), s, .inl rfl, h⟩
  · rintro ⟨hplus, digits, rfl | rfl, h⟩
    · exact h
    · exact absurd List.mem_cons_self hplus

theorem DenotesSigned.dot_notMem (h : DenotesSigned s n) : '.' ∉ s := by
  obtain ⟨digits, hs, hdigits⟩ := h
  have hdot : '.' ∉ digits := fun hdot => absurd (hdigits.isDigit '.' hdot) (by decide)
  obtain rfl | rfl := hs
  · exact hdot
  · exact List.not_mem_cons_of_ne_of_not_mem (by decide) hdot

theorem DenotesSigned.bound (h : DenotesSigned s n) : n ≤ 4294967295 := by
  obtain ⟨digits, -, hdigits⟩ := h
  exact hdigits.bound

theorem readPart?_eq_some_iff {p : UInt32} :
    readPart? s = some p ↔ DenotesSigned s p.toNat := by
  rw [readPart?, Option.map_eq_some_iff]
  constructor
  · rintro ⟨n, hread, rfl⟩
    obtain ⟨digits, hs, hdigits, hlt⟩ := readBelow?_eq_some_iff.mp hread
    obtain ⟨hne, hall, hvalue⟩ := readNat?_eq_some_iff.mp hdigits
    refine ⟨digits, hs, hne, hall, ?_, Nat.le_of_lt_succ (UInt32.toNat_lt _)⟩
    rw [hvalue, UInt32.toNat_ofNat_of_lt' hlt]
  · rintro ⟨digits, hs, h⟩
    have hread := readNat?_eq_some_iff.mpr ⟨h.ne_nil, h.isDigit, h.value⟩
    exact ⟨p.toNat, readBelow?_eq_some_iff.mpr ⟨digits, hs, hread, p.toNat_lt⟩,
      UInt32.ofNat_toNat⟩

theorem parse?_eq_some_iff {s : String} {v : Version} :
    parse? s = some v ↔ (splitOn '.' s.toList).mapM readPart? = some v.parts := by
  unfold parse?
  split
  · next p ps h => rw [h, Option.some_inj, Option.some_inj, Version.ext_iff]
  · next hnone =>
    refine iff_of_false nofun fun h => ?_
    obtain ⟨p, ps, hparts⟩ := List.exists_cons_of_ne_nil v.parts_ne_nil
    exact hnone p ps (hparts ▸ h)

theorem parse?_iff_dotted {s : String} {v : Version} :
    parse? s = some v ↔ Dotted DenotesSigned s (v.parts.map UInt32.toNat) := by
  rw [parse?_eq_some_iff, mapM_eq_some_iff]
  simp only [readPart?_eq_some_iff]
  rw [← List.forall₂_map_right_iff (R := DenotesSigned)]
  constructor
  · intro h
    exact ⟨by simpa using v.parts_ne_nil, _, (List.intercalate_splitOn '.').symm, h⟩
  · rintro ⟨hne, texts, hs, h⟩
    have htexts : texts ≠ [] := by
      rintro rfl
      exact hne (List.forall₂_nil_left_iff.mp h)
    have hdot : ∀ text ∈ texts, '.' ∉ text :=
      ((List.forall₂_and_left _ _).mp (h.imp fun _ _ hn => ⟨hn.dot_notMem, hn⟩)).1
    rwa [hs, splitOn, List.splitOn_intercalate '.' hdot htexts]

theorem dotted_iff_signed {s : String} {numbers : List Nat} :
    Dotted Denotes s numbers ↔ '+' ∉ s.toList ∧ Dotted DenotesSigned s numbers := by
  unfold Dotted
  have hall : ∀ texts, List.Forall₂ Denotes texts numbers ↔
      (∀ text ∈ texts, '+' ∉ text) ∧ List.Forall₂ DenotesSigned texts numbers := by
    intro texts
    rw [← List.forall₂_and_left]
    simp only [← denotes_iff_signed]
  simp only [hall]
  constructor
  · rintro ⟨hne, texts, hs, hplus, h⟩
    refine ⟨?_, hne, texts, hs, h⟩
    rw [hs, mem_intercalate_iff (by decide)]
    rintro ⟨text, htext, hmem⟩
    exact hplus text htext hmem
  · rintro ⟨hplus, hne, texts, hs, h⟩
    refine ⟨hne, texts, hs, fun text htext hmem => hplus ?_, h⟩
    rw [hs, mem_intercalate_iff (by decide)]
    exact ⟨text, htext, hmem⟩

theorem Dotted.exists_parts {s : String} {numbers : List Nat} (h : Dotted DenotesSigned s numbers) :
    ∃ v : Version, v.parts.map UInt32.toNat = numbers := by
  obtain ⟨hne, texts, -, hall⟩ := h
  have hbound : ∀ n ∈ numbers, n ≤ 4294967295 :=
    ((List.forall₂_and_left _ _).mp (hall.flip.imp fun _ _ hn => ⟨DenotesSigned.bound hn, hn⟩)).1
  refine ⟨⟨numbers.map UInt32.ofNat, by simpa using hne⟩, ?_⟩
  rw [List.map_map]
  refine (List.map_congr_left fun n hn => ?_).trans (List.map_id numbers)
  exact UInt32.toNat_ofNat_of_lt' (Nat.lt_succ_of_le (hbound n hn))

/-- A text without a plus sign is a version if and only if it is decimal numbers of 32 bits joined by
single dots, and the version then has these numbers. The texts with a plus sign that are versions have
it in front of a number. What a version is written as is read as the version. -/
theorem parses_dotted_numbers (s : String) :
    (∀ numbers, Dotted Denotes s numbers ↔
      '+' ∉ s.toList ∧ ∃ v, parse? s = some v ∧ v.parts.map UInt32.toNat = numbers) ∧
    (∀ v, parse? s = some v ↔ Dotted DenotesSigned s (v.parts.map UInt32.toNat)) ∧
    ∀ v, parse? s = some v → parse? v.render = some v := by
  refine ⟨fun numbers => ?_, fun v => parse?_iff_dotted, fun v _ => parse?_render v⟩
  rw [dotted_iff_signed]
  refine and_congr_right fun _ => ⟨fun h => ?_, ?_⟩
  · obtain ⟨v, rfl⟩ := h.exists_parts
    exact ⟨v, parse?_iff_dotted.mpr h, rfl⟩
  · rintro ⟨v, hv, rfl⟩
    exact parse?_iff_dotted.mp hv

theorem parses_dotted_numbers_zeros :
    Dotted Denotes "4.07.1" [4, 7, 1] ∧
      ∃ v, parse? "4.07.1" = some v ∧ v.parts.map UInt32.toNat = [4, 7, 1] ∧ v.render = "4.7.1" ∧
        parse? "4.7.1" = some v := by
  have hdotted : Dotted Denotes "4.07.1" [4, 7, 1] := by
    refine ⟨by decide, [['4'], ['0', '7'], ['1']], by decide, ?_⟩
    exact .cons ⟨by decide, List.all_eq_true.mp rfl, by decide, by decide⟩
      (.cons ⟨by decide, List.all_eq_true.mp rfl, by decide, by decide⟩
        (.cons ⟨by decide, List.all_eq_true.mp rfl, by decide, by decide⟩ .nil))
  obtain ⟨hnumbers, -, hagain⟩ := parses_dotted_numbers "4.07.1"
  obtain ⟨-, v, hv, hparts⟩ := (hnumbers [4, 7, 1]).mp hdotted
  have hrender : v.render = "4.7.1" := by
    have hlist : v.parts.map (fun p => String.ofList (decimal p.toNat)) =
        (v.parts.map UInt32.toNat).map fun n => String.ofList (decimal n) := by
      rw [List.map_map]
      rfl
    rw [render, hlist, hparts]
    decide +kernel
  exact ⟨hdotted, v, hv, hparts, hrender, hrender ▸ hagain v hv⟩

theorem signed_number_is_parsed :
    ¬ ∀ s, (∃ v, parse? s = some v) → ∃ numbers, Dotted Denotes s numbers := by
  intro hclaim
  have hparse : parse? "+1" = some ⟨[1], by decide⟩ := by rfl
  obtain ⟨numbers, hnumbers⟩ := hclaim "+1" ⟨_, hparse⟩
  exact (dotted_iff_signed.mp hnumbers).1 (by decide)

end FormatterModules.Version
