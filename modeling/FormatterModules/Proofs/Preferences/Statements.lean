import FormatterModules.Preferences
import FormatterModules.Proofs.Ordered.Map
import FormatterModules.Proofs.Text.Lines

namespace FormatterModules.Preferences

def statements (text : List Char) : List (List Char) :=
  ((Text.contents text).map Text.trim).filter (· ≠ [])

/-- The statement gives a key a value. The first separator stands behind the key, which is not blank,
and the statement is no comment. -/
inductive Assigns : List Char → String → String → Prop
  | mk {before after : List Char} {separator : Char}
      (uncommented : ∀ c, before.head? = some c → startsComment c = false)
      (first : ∀ c ∈ before, isSeparator c = false)
      (separates : isSeparator separator = true)
      (named : Text.trim before ≠ []) :
      Assigns (before ++ separator :: after) (String.ofList (Text.trim before))
        (String.ofList (Text.trim after))

/-- The statement can be read: it is a comment, or it gives a key a value. -/
def Legible (statement : List Char) : Prop :=
  statement.head?.any startsComment = true ∨ ∃ key value, Assigns statement key value

def assignment? (statement : List Char) : Option (String × String) :=
  match readTrimmed statement with
  | .ok (.pair key value) => some (key, value)
  | _ => none

variable {statement before after : List Char} {separator : Char} {key value origin : String}

theorem readTrimmed_append (first : ∀ c ∈ before, isSeparator c = false)
    (separates : isSeparator separator = true) :
    readTrimmed (before ++ separator :: after) =
      if (before ++ separator :: after).head?.any startsComment then .ok .nothing
      else if (Text.trim before).isEmpty then .error .emptyKey
      else .ok (.pair (String.ofList (Text.trim before)) (String.ofList (Text.trim after))) := by
  have hfirst : ∀ c ∈ before, (!isSeparator c) = true := by simpa using first
  have hempty : (before ++ separator :: after).isEmpty = false := by simp
  rw [readTrimmed, hempty, Bool.false_or, List.dropWhile_append_of_pos hfirst,
    List.takeWhile_append_of_pos hfirst]
  simp [separates]

theorem readTrimmed_eq_nothing_iff : readTrimmed statement = .ok .nothing ↔
    statement = [] ∨ statement.head?.any startsComment = true := by
  rw [← List.isEmpty_iff, ← Bool.or_eq_true]
  unfold readTrimmed
  split
  · next h => exact iff_of_true rfl h
  · next h =>
    refine iff_of_false (fun hread => ?_) h
    split at hread
    · cases hread
    · dsimp only at hread
      split at hread <;> cases hread

theorem readTrimmed_of_assigns (h : Assigns statement key value) :
    readTrimmed statement = .ok (.pair key value) := by
  cases h with
  | @mk before after separator uncommented first separates named =>
    have hne : before ≠ [] := fun he => named (by rw [he]; rfl)
    obtain ⟨c, rest, rfl⟩ := List.exists_cons_of_ne_nil hne
    rw [readTrimmed_append first separates, if_neg (by simp [uncommented c rfl]),
      if_neg (by simpa using named)]

theorem assigns_of_readTrimmed (h : readTrimmed statement = .ok (.pair key value)) :
    Assigns statement key value := by
  cases hfound : statement.find? isSeparator with
  | none =>
    have hnone : statement.dropWhile (fun c => !isSeparator c) = [] := by
      simpa using hfound
    rw [readTrimmed, hnone] at h
    split at h <;> cases h
  | some separator =>
    obtain ⟨separates, before, after, rfl, hfirst⟩ := List.find?_eq_some_iff_append.mp hfound
    have first : ∀ c ∈ before, isSeparator c = false := by simpa using hfirst
    rw [readTrimmed_append first separates] at h
    split at h
    · cases h
    · next huncommented =>
      split at h
      · cases h
      · next hnamed =>
        cases h
        refine .mk (fun c hc => ?_) first separates (by simpa using hnamed)
        rw [List.head?_append, hc] at huncommented
        simpa using huncommented

theorem readTrimmed_eq_pair_iff :
    readTrimmed statement = .ok (.pair key value) ↔ Assigns statement key value :=
  ⟨assigns_of_readTrimmed, readTrimmed_of_assigns⟩

theorem exists_readTrimmed_eq_ok_iff :
    (∃ content, readTrimmed statement = .ok content) ↔ statement = [] ∨ Legible statement := by
  rw [Legible, ← or_assoc, ← readTrimmed_eq_nothing_iff]
  simp only [← readTrimmed_eq_pair_iff]
  constructor
  · rintro ⟨content, h⟩
    cases content with
    | nothing => exact .inl h
    | pair key value => exact .inr ⟨key, value, h⟩
  · rintro (h | ⟨key, value, h⟩)
    · exact ⟨_, h⟩
    · exact ⟨_, h⟩

theorem assignment?_eq_some_iff :
    assignment? statement = some (key, value) ↔ Assigns statement key value := by
  rw [← readTrimmed_eq_pair_iff, assignment?]
  split <;> simp_all

theorem readLines_eq_ok_iff {number : Nat} {p q : Preferences} {lines : List (List Char)} :
    readLines origin number p lines = .ok q ↔
      (∀ line ∈ lines, ∃ content, readTrimmed (Text.trim line) = .ok content) ∧
      q = ⟨(lines.filterMap fun line => assignment? (Text.trim line)).foldl
        (fun m e => m.insert e.1 e.2) p.entries⟩ := by
  induction lines generalizing number p with
  | nil => simp [readLines, eq_comm]
  | cons line rest ih =>
    rw [readLines, List.forall_mem_cons, List.filterMap_cons, assignment?]
    cases readTrimmed (Text.trim line) with
    | error fault => simp
    | ok content =>
      cases content with
      | nothing => simp [ih]
      | pair key value => simp [ih, insert]

theorem forall_contents_iff {text : List Char} :
    (∀ line ∈ Text.contents text, ∃ content, readTrimmed (Text.trim line) = .ok content) ↔
      ∀ statement ∈ statements text, Legible statement := by
  -- An empty line can be read, so it makes no difference that it is left out.
  unfold statements
  rw [List.forall_mem_filter, List.forall_mem_map]
  refine forall₂_congr fun line _ => ?_
  rw [exists_readTrimmed_eq_ok_iff]
  simp [or_iff_not_imp_left]

theorem filterMap_contents (text : List Char) :
    ((Text.contents text).filterMap fun line => assignment? (Text.trim line)) =
      (statements text).filterMap assignment? := by
  unfold statements
  rw [List.filterMap_filter, List.filterMap_map]
  refine List.filterMap_congr fun line _ => ?_
  by_cases h : Text.trim line = []
  · simp [h]
    rfl
  · simp [h]

/-- All statements of the text can be read. -/
def IsLegible (text : String) : Prop := ∀ statement ∈ statements text.toList, Legible statement

/-- The values that a text gives to keys, one after another. -/
def assignments (text : String) : List (String × String) :=
  (statements text.toList).filterMap assignment?

theorem parse_eq_ok_iff {text : String} {p : Preferences} :
    parse origin text = .ok p ↔ IsLegible text ∧ p = ofList (assignments text) := by
  rw [IsLegible, assignments, ← forall_contents_iff, ← filterMap_contents]
  exact readLines_eq_ok_iff

theorem exists_parse_eq_ok_iff {text : String} :
    (∃ p, parse origin text = .ok p) ↔ IsLegible text := by
  simp only [parse_eq_ok_iff, exists_and_left, exists_eq, and_true]

theorem lastValue_assignments_iff {text : String} :
    LastValue (fun e v => e = (key, v)) (assignments text) value ↔
      LastValue (fun statement v => Assigns statement key v) (statements text.toList) value := by
  rw [assignments, lastValue_filterMap_iff]
  simp only [exists_eq_right, assignment?_eq_some_iff]

section Joining

variable {a b : String} {texts : List String}

/-- It is enough to cut a text at its line feeds. A carriage return before one of them is trimmed, and
an empty rest behind the last is no statement. -/
theorem statements_eq_splitOn (text : List Char) :
    statements text = ((Text.splitOn '\n' text).map Text.trim).filter (· ≠ []) := by
  obtain ⟨parts, last, hcut⟩ := Text.exists_isCut text
  have htrim : Text.trim ∘ Text.dropReturn = Text.trim := funext Text.trim_dropReturn
  rw [statements, hcut.contents_eq, hcut.splitOn_eq, List.map_append, List.map_append, List.map_map,
    htrim, List.filter_append, List.filter_append]
  congr 1
  unfold Text.remainder
  split
  · next h =>
    rw [h]
    rfl
  · rfl

theorem statements_append (a b : String) :
    statements (a ++ "\n" ++ b).toList = statements a.toList ++ statements b.toList := by
  have htext : (a ++ "\n" ++ b).toList = a.toList ++ '\n' :: b.toList := by simp
  simp only [htext, statements_eq_splitOn, Text.splitOn, List.splitOn_append_cons_self,
    List.map_append, List.filter_append]

theorem isLegible_append : IsLegible (a ++ "\n" ++ b) ↔ IsLegible a ∧ IsLegible b := by
  rw [IsLegible, statements_append, List.forall_mem_append, IsLegible, IsLegible]

theorem assignments_append (a b : String) :
    assignments (a ++ "\n" ++ b) = assignments a ++ assignments b := by
  rw [assignments, statements_append, List.filterMap_append, assignments, assignments]

theorem join_cons_cons (text next : String) (rest : List String) :
    Text.join "\n" (text :: next :: rest) = text ++ "\n" ++ Text.join "\n" (next :: rest) :=
  String.intercalate_cons_cons

theorem statements_join (texts : List String) :
    statements (Text.join "\n" texts).toList = texts.flatMap fun text => statements text.toList := by
  induction texts with
  | nil => rfl
  | cons text texts ih =>
    cases texts with
    | nil => simp [Text.join]
    | cons next rest => rw [join_cons_cons, statements_append, List.flatMap_cons, ih]

theorem isLegible_join : IsLegible (Text.join "\n" texts) ↔ ∀ text ∈ texts, IsLegible text := by
  rw [IsLegible, statements_join, List.forall_mem_flatMap]
  rfl

theorem assignments_join (texts : List String) :
    assignments (Text.join "\n" texts) = texts.flatMap assignments := by
  rw [assignments, statements_join, List.filterMap_flatMap]
  rfl

end Joining

end FormatterModules.Preferences
