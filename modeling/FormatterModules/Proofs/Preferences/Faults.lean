import FormatterModules.Proofs.Failure.Sequence
import FormatterModules.Proofs.Preferences.Statements
import FormatterModules.Proofs.Text.Decimal

namespace FormatterModules.Preferences

/-- The trimmed line has the fault: no separator stands in it, or nothing but blanks before the first. It
is neither empty nor a comment. -/
inductive HasFault : List Char → LineFault → Prop
  | noSeparator {line : List Char} (nonempty : line ≠ [])
      (uncommented : ∀ c, line.head? = some c → startsComment c = false)
      (unseparated : ∀ c ∈ line, isSeparator c = false) : HasFault line .noSeparator
  | emptyKey {before after : List Char} {separator : Char}
      (uncommented : ∀ c, before.head? = some c → startsComment c = false)
      (first : ∀ c ∈ before, isSeparator c = false) (separates : isSeparator separator = true)
      (unnamed : Text.trim before = []) : HasFault (before ++ separator :: after) .emptyKey

variable {line before after : List Char} {separator : Char} {fault : LineFault} {e : Failure}
  {origin text : String}

theorem not_startsComment_of_isSeparator (h : isSeparator separator = true) :
    startsComment separator = false := by
  obtain rfl | rfl : separator = '=' ∨ separator = ':' := by simpa [isSeparator] using h
  · rfl
  · rfl

theorem any_startsComment_append (separates : isSeparator separator = true) :
    (before ++ separator :: after).head?.any startsComment = before.head?.any startsComment := by
  cases before with
  | nil => simpa using not_startsComment_of_isSeparator separates
  | cons c before => rfl

theorem any_startsComment_eq_false_iff :
    line.head?.any startsComment = false ↔ ∀ c, line.head? = some c → startsComment c = false := by
  cases line <;> simp

theorem readTrimmed_of_unseparated (h : ∀ c ∈ line, isSeparator c = false) :
    readTrimmed line =
      if line.isEmpty || line.head?.any startsComment then .ok .nothing else .error .noSeparator := by
  have hnone : line.dropWhile (fun c => !isSeparator c) = [] := by simpa using h
  rw [readTrimmed, hnone]

theorem readTrimmed_eq_error_iff : readTrimmed line = .error fault ↔ HasFault line fault := by
  constructor
  · intro h
    cases hfound : line.find? isSeparator with
    | none =>
      have hnone : ∀ c ∈ line, isSeparator c = false := by simpa using hfound
      rw [readTrimmed_of_unseparated hnone] at h
      split at h
      · cases h
      · next hplain =>
        cases h
        obtain ⟨hempty, hcomment⟩ := Bool.or_eq_false_iff.mp (eq_false_of_ne_true hplain)
        exact .noSeparator (by simpa using hempty) (any_startsComment_eq_false_iff.mp hcomment) hnone
    | some separator =>
      obtain ⟨separates, before, after, rfl, hfirst⟩ := List.find?_eq_some_iff_append.mp hfound
      have first : ∀ c ∈ before, isSeparator c = false := by simpa using hfirst
      rw [readTrimmed_append first separates, any_startsComment_append separates] at h
      split at h
      · cases h
      · next hplain =>
        split at h
        · next hunnamed =>
          cases h
          exact .emptyKey (any_startsComment_eq_false_iff.mp (eq_false_of_ne_true hplain)) first
            separates (List.isEmpty_iff.mp hunnamed)
        · cases h
  · intro h
    cases h with
    | noSeparator nonempty uncommented unseparated =>
      rw [readTrimmed_of_unseparated unseparated, any_startsComment_eq_false_iff.mpr uncommented]
      simp [nonempty]
    | emptyKey uncommented first separates unnamed =>
      rw [readTrimmed_append first separates, any_startsComment_append separates,
        any_startsComment_eq_false_iff.mpr uncommented, unnamed]
      rfl

theorem readLines_of_error {number : Nat} {p : Preferences} {lines : List (List Char)}
    (h : readTrimmed (Text.trim line) = .error fault) :
    readLines origin number p (line :: lines) =
      .error (.parse origin (fault.details number (Text.trim line))) := by
  rw [readLines, h]

theorem exists_readLines_of_ok {number : Nat} {p : Preferences} {lines : List (List Char)}
    {content : LineContent} (h : readTrimmed (Text.trim line) = .ok content) :
    ∃ q, readLines origin number p (line :: lines) = readLines origin (number + 1) q lines := by
  rw [readLines, h]
  cases content with
  | nothing => exact ⟨p, rfl⟩
  | pair key value => exact ⟨p.insert key value, rfl⟩

/-- Reading fails at the first line with a fault, whose number counts from that of the first line. -/
theorem readLines_eq_error_iff {number : Nat} {p : Preferences} {lines : List (List Char)} :
    readLines origin number p lines = .error e ↔ ∃ before line after,
      lines = before ++ line :: after ∧
      (∀ l ∈ before, Text.trim l = [] ∨ Legible (Text.trim l)) ∧ ∃ fault,
        HasFault (Text.trim line) fault ∧
        e = .parse origin (fault.details (number + before.length) (Text.trim line)) := by
  simp only [← exists_readTrimmed_eq_ok_iff, ← readTrimmed_eq_error_iff]
  induction lines generalizing number p with
  | nil => simp [readLines]
  | cons line lines ih =>
    rw [Failure.exists_split_cons_iff]
    cases hline : readTrimmed (Text.trim line) with
    | error fault =>
      rw [readLines_of_error hline]
      simp [hline, eq_comm]
    | ok content =>
      -- What the preferences are by then makes no difference to a failure.
      obtain ⟨q, hq⟩ : ∃ q, readLines origin number p (line :: lines) =
        readLines origin (number + 1) q lines := exists_readLines_of_ok hline
      rw [hq, ih]
      simp only [hline, List.forall_mem_cons, reduceCtorEq, false_and, exists_false, and_false,
        false_or, Except.ok.injEq, exists_eq', true_and, List.length_cons, Nat.add_assoc,
        Nat.add_comm 1]

theorem parse_eq_error_iff : parse origin text = .error e ↔ ∃ before line after,
    Text.contents text.toList = before ++ line :: after ∧
    (∀ l ∈ before, Text.trim l = [] ∨ Legible (Text.trim l)) ∧ ∃ fault,
      HasFault (Text.trim line) fault ∧
      e = .parse origin (fault.details (before.length + 1) (Text.trim line)) := by
  simp only [Nat.add_comm _ 1]
  exact readLines_eq_error_iff

def LineFault.remark (line : List Char) : LineFault → List Char
  | noSeparator => " expected 'key=value', found '".toList ++ line ++ ['\'']
  | emptyKey => " empty key".toList

theorem LineFault.toList_details (number : Nat) (line : List Char) (fault : LineFault) :
    (fault.details number line).toList =
      ("line ".toList ++ Text.decimal number) ++ ':' :: fault.remark line := by
  cases fault with
  | noSeparator =>
    change ("line " ++ String.ofList (Text.decimal number) ++ ": expected 'key=value', found '" ++
      String.ofList line ++ "'").toList = _
    simp only [String.toList_append, String.toList_ofList, List.append_assoc]
    rfl
  | emptyKey =>
    change ("line " ++ String.ofList (Text.decimal number) ++ ": empty key").toList = _
    simp only [String.toList_append, String.toList_ofList]
    rfl

theorem LineFault.remark_ne (line other : List Char) :
    noSeparator.remark line ≠ emptyKey.remark other := by
  intro h
  have hsecond : (noSeparator.remark line)[2]? = (emptyKey.remark other)[2]? := by rw [h]
  have hx : (noSeparator.remark line)[2]? = some 'x' := rfl
  have hm : (emptyKey.remark other)[2]? = some 'm' := rfl
  rw [hx, hm] at hsecond
  exact absurd hsecond (by decide)

theorem LineFault.details_inj {n m : Nat} {line other : List Char} {fault fault' : LineFault}
    (h : fault.details n line = fault'.details m other) : n = m ∧ fault = fault' := by
  -- The first colon stands behind the number.
  have hfree : ∀ k, ':' ∉ "line ".toList ++ Text.decimal k := by
    intro k hmem
    obtain hmem | hmem := List.mem_append.mp hmem
    · exact absurd hmem (by decide)
    · exact absurd (Text.isDigit_of_mem_decimal hmem) (by decide)
  have hlist := congrArg String.toList h
  rw [toList_details, toList_details,
    Text.append_separator_inj (.inl ⟨hfree n, hfree m⟩)] at hlist
  obtain ⟨hnumber, hremark⟩ := hlist
  refine ⟨Text.decimal_injective (List.append_cancel_left hnumber), ?_⟩
  cases fault with
  | noSeparator =>
    cases fault' with
    | noSeparator => rfl
    | emptyKey => exact absurd hremark (remark_ne line other)
  | emptyKey =>
    cases fault' with
    | noSeparator => exact absurd hremark.symm (remark_ne other line)
    | emptyKey => rfl

end FormatterModules.Preferences
