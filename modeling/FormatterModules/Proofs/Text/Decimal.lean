import Mathlib.Logic.Function.Basic
import FormatterModules.Text.Number

namespace FormatterModules.Text

theorem readDigits_of_digits {digits : List Char} (h : ∀ c ∈ digits, c.isDigit) (acc : Nat) :
    readDigits acc digits = some (Nat.ofDigitChars 10 digits acc) := by
  induction digits generalizing acc with
  | nil => rfl
  | cons c rest ih =>
    have hc : digitValue? c = some (c.toNat - '0'.toNat) := by
      rw [digitValue?, if_pos (h c (by simp))]
      rfl
    have hrest : ∀ d ∈ rest, d.isDigit := fun d hd => h d (by simp [hd])
    rw [readDigits, hc, Option.bind_some, ih hrest]
    rfl

theorem isDigit_of_mem_decimal {n : Nat} {c : Char} (h : c ∈ decimal n) : c.isDigit :=
  Nat.isDigit_of_mem_toDigits (by decide) (by decide) h

theorem isDigit_of_readDigits {digits : List Char} {acc n : Nat}
    (h : readDigits acc digits = some n) : ∀ c ∈ digits, c.isDigit = true := by
  induction digits generalizing acc with
  | nil => exact List.forall_mem_nil _
  | cons c rest ih =>
    rw [readDigits] at h
    obtain ⟨d, hd, hrest⟩ := Option.bind_eq_some_iff.mp h
    refine List.forall_mem_cons.mpr ⟨?_, ih hrest⟩
    by_cases hc : c.isDigit = true
    · exact hc
    · rw [digitValue?, if_neg hc] at hd
      cases hd

theorem readNat?_eq_some_iff {s : List Char} {n : Nat} :
    readNat? s = some n ↔
      s ≠ [] ∧ (∀ c ∈ s, c.isDigit = true) ∧ Nat.ofDigitChars 10 s 0 = n := by
  cases s with
  | nil => simp [readNat?]
  | cons c rest =>
    have hread : readNat? (c :: rest) = readDigits 0 (c :: rest) := rfl
    rw [hread]
    constructor
    · intro h
      have hdigits := isDigit_of_readDigits h
      rw [readDigits_of_digits hdigits] at h
      exact ⟨List.cons_ne_nil c rest, hdigits, Option.some.inj h⟩
    · rintro ⟨-, hdigits, rfl⟩
      exact readDigits_of_digits hdigits 0

/-- A number is read from its digits, also behind one plus sign. -/
theorem readBelow?_eq_some_iff {bound n : Nat} {s : List Char} :
    readBelow? bound s = some n ↔
      ∃ digits, (s = digits ∨ s = '+' :: digits) ∧ readNat? digits = some n ∧ n < bound := by
  have hplus : ∀ rest, readNat? ('+' :: rest) ≠ some n := fun rest h =>
    absurd ((readNat?_eq_some_iff.mp h).2.1 '+' List.mem_cons_self) (by decide)
  unfold readBelow?
  simp only [Option.filter_eq_some_iff, decide_eq_true_eq]
  split
  · next rest =>
    constructor
    · exact fun h => ⟨rest, .inr rfl, h⟩
    · rintro ⟨digits, rfl | hs, h⟩
      · exact absurd h.1 (hplus rest)
      · rwa [(List.cons.inj hs).2]
  · next hne =>
    constructor
    · exact fun h => ⟨s, .inl rfl, h⟩
    · rintro ⟨digits, rfl | rfl, h⟩
      · exact h
      · exact absurd rfl (hne digits)

theorem readNat?_decimal (n : Nat) : readNat? (decimal n) = some n :=
  readNat?_eq_some_iff.mpr
    ⟨Nat.toDigits_ne_nil, fun _ => isDigit_of_mem_decimal, Nat.ofDigitChars_ten_toDigits⟩

theorem decimal_injective : Function.Injective decimal := by
  intro n m h
  have hread := readNat?_decimal n
  rw [h, readNat?_decimal] at hread
  exact (Option.some.inj hread).symm

theorem readBelow?_decimal {bound n : Nat} (h : n < bound) :
    readBelow? bound (decimal n) = some n :=
  readBelow?_eq_some_iff.mpr ⟨decimal n, .inl rfl, readNat?_decimal n, h⟩

end FormatterModules.Text
