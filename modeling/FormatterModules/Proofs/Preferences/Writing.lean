import FormatterModules.Proofs.Preferences.Faults

namespace FormatterModules.Preferences

/-- The text can be read as a key. -/
structure IsKey (key : String) : Prop where
  nonempty : key.toList ≠ []
  trimmed : Text.trim key.toList = key.toList
  unseparated : ∀ c ∈ key.toList, isSeparator c = false
  uncommented : ∀ c, key.toList.head? = some c → startsComment c = false
  lf_free : '\n' ∉ key.toList

/-- The text can be read as a value. -/
structure IsValue (value : String) : Prop where
  trimmed : Text.trim value.toList = value.toList
  lf_free : '\n' ∉ value.toList

def lineOf (e : String × String) : List Char := e.1.toList ++ '=' :: e.2.toList

def written (pairs : List (String × String)) : String :=
  String.ofList (Text.terminate (pairs.map lineOf))

variable {statement : List Char} {key value origin text : String} {pairs : List (String × String)}
  {p : Preferences} {e : String × String}

theorem Assigns.isKey (h : Assigns statement key value)
    (hhead : ∀ c, statement.head? = some c → Text.isBlank c = false) (hlf : '\n' ∉ statement) :
    IsKey key := by
  cases h with
  | @mk before after separator uncommented first separates named =>
    obtain ⟨c, rest, rfl⟩ : ∃ c rest, before = c :: rest :=
      List.exists_cons_of_ne_nil fun he => named (by rw [he]; rfl)
    -- There is no blank in front of the statement, so its key starts as it does.
    have hstart : Text.trimStart (c :: rest) = c :: rest :=
      Text.trimStart_of_head fun d hd => hhead d hd
    obtain ⟨blanks, hblanks⟩ := Text.trim_prefix_trimStart (c :: rest)
    rw [hstart] at hblanks
    refine ⟨?_, ?_, ?_, ?_, ?_⟩
    all_goals rw [String.toList_ofList]
    · exact named
    · exact Text.trim_trim _
    · exact fun d hd => first d (Text.mem_of_mem_trim hd)
    · intro d hd
      refine uncommented d ?_
      rw [← hblanks, List.head?_append, hd]
      rfl
    · exact fun hmem => hlf (List.mem_append_left _ (Text.mem_of_mem_trim hmem))

theorem Assigns.isValue (h : Assigns statement key value) (hlf : '\n' ∉ statement) :
    IsValue value := by
  cases h with
  | @mk before after separator uncommented first separates named =>
    refine ⟨?_, ?_⟩
    all_goals rw [String.toList_ofList]
    · exact Text.trim_trim after
    · intro hmem
      exact hlf (List.mem_append_right _ (List.mem_cons_of_mem _ (Text.mem_of_mem_trim hmem)))

theorem assigns_lineOf (hkey : IsKey e.1) (hvalue : IsValue e.2) : Assigns (lineOf e) e.1 e.2 := by
  have hassigns : Assigns (lineOf e) (String.ofList (Text.trim e.1.toList))
      (String.ofList (Text.trim e.2.toList)) :=
    .mk hkey.uncommented hkey.unseparated rfl (by rw [hkey.trimmed]; exact hkey.nonempty)
  rwa [hkey.trimmed, hvalue.trimmed, String.ofList_toList, String.ofList_toList] at hassigns

theorem trim_lineOf (hkey : IsKey e.1) (hvalue : IsValue e.2) :
    Text.trim (lineOf e) = lineOf e := by
  refine Text.trim_eq_self (fun c hc => ?_) fun c hc => ?_
  · rw [lineOf, List.head?_append_of_ne_nil _ hkey.nonempty, ← hkey.trimmed] at hc
    exact Text.isBlank_head_trim hc
  · rw [lineOf, List.getLast?_append_of_ne_nil _ (List.cons_ne_nil _ _), List.getLast?_cons,
      ← hvalue.trimmed] at hc
    cases hlast : (Text.trim e.2.toList).getLast? with
    | none =>
      rw [hlast] at hc
      cases hc
      decide
    | some d =>
      rw [hlast] at hc
      cases hc
      exact Text.isBlank_last_trim hlast

theorem lf_free_lineOf (hkey : IsKey e.1) (hvalue : IsValue e.2) : '\n' ∉ lineOf e := by
  intro hmem
  obtain hmem | hmem := List.mem_append.mp hmem
  · exact hkey.lf_free hmem
  · exact hvalue.lf_free ((List.mem_cons.mp hmem).resolve_left (by decide))

theorem statements_written (h : ∀ e ∈ pairs, IsKey e.1 ∧ IsValue e.2) :
    statements (written pairs).toList = pairs.map lineOf := by
  have hcut : Text.IsCut (written pairs).toList (pairs.map lineOf) [] :=
    { text_eq := by rw [written, String.toList_ofList, List.append_nil]
      parts_free := List.forall_mem_map.mpr fun e he => lf_free_lineOf (h e he).1 (h e he).2
      last_free := List.not_mem_nil }
  have htrim : (pairs.map lineOf).map Text.trim = pairs.map lineOf := by
    rw [List.map_map]
    exact List.map_congr_left fun e he => trim_lineOf (h e he).1 (h e he).2
  have hkept : (pairs.map lineOf).filter (· ≠ []) = pairs.map lineOf := by
    rw [List.filter_eq_self]
    refine List.forall_mem_map.mpr fun e _ => ?_
    simp [lineOf]
  rw [statements_eq_splitOn, hcut.splitOn_eq, List.map_append, List.filter_append, htrim, hkept]
  exact List.append_nil _

theorem assignments_written (h : ∀ e ∈ pairs, IsKey e.1 ∧ IsValue e.2) :
    assignments (written pairs) = pairs := by
  have hread : ∀ e ∈ pairs, (assignment? ∘ lineOf) e = some e := fun e he =>
    assignment?_eq_some_iff.mpr (assigns_lineOf (h e he).1 (h e he).2)
  rw [assignments, statements_written h, List.filterMap_map, List.filterMap_congr hread,
    List.filterMap_some]

theorem parse_written (h : ∀ e ∈ pairs, IsKey e.1 ∧ IsValue e.2) :
    parse origin (written pairs) = .ok (ofList pairs) := by
  refine parse_eq_ok_iff.mpr ⟨?_, by rw [assignments_written h]⟩
  rw [IsLegible, statements_written h]
  refine List.forall_mem_map.mpr fun e he => .inr ⟨e.1, e.2, ?_⟩
  exact assigns_lineOf (h e he).1 (h e he).2

theorem exists_parse_eq_ok_iff_contents : (∃ p, parse origin text = .ok p) ↔
    ∀ line ∈ Text.contents text.toList, Text.trim line = [] ∨ Legible (Text.trim line) := by
  rw [exists_parse_eq_ok_iff, IsLegible, ← forall_contents_iff]
  exact forall₂_congr fun line _ => exists_readTrimmed_eq_ok_iff

theorem mem_toList_iff (h : parse origin text = .ok p) : (key, value) ∈ p.toList ↔
    LastValue (fun line v => Assigns (Text.trim line) key v) (Text.contents text.toList) value := by
  obtain ⟨-, rfl⟩ := parse_eq_ok_iff.mp h
  rw [toList, ← OrderedMap.get?_eq_some_iff, ofList, OrderedMap.get?_ofList_eq_some_iff, assignments,
    ← filterMap_contents, lastValue_filterMap_iff]
  simp only [exists_eq_right, assignment?_eq_some_iff]

theorem isKey_of_mem (h : parse origin text = .ok p) (hmem : (key, value) ∈ p.toList) :
    IsKey key ∧ IsValue value := by
  obtain ⟨before, line, after, hsplit, hassigns, -⟩ := (mem_toList_iff h).mp hmem
  have hline : line ∈ Text.contents text.toList := by rw [hsplit]; simp
  obtain ⟨parts, last, hcut⟩ := Text.exists_isCut text.toList
  have hlf : '\n' ∉ Text.trim line := fun hlf =>
    hcut.lf_free_of_mem_contents hline (Text.mem_of_mem_trim hlf)
  exact ⟨hassigns.isKey (fun _ => Text.isBlank_head_trim) hlf, hassigns.isValue hlf⟩

theorem parse_written_toList {other : String} (h : parse origin text = .ok p) :
    parse other (written p.toList) = .ok p := by
  rw [parse_written fun e he => isKey_of_mem h he, ofList, toList, OrderedMap.ofList_toList]

/-- A text can be read if and only if each line, without the blanks at its ends, is empty, a comment, or
gives a key a value. The preferences have the last value of each key, and their keys and values can be
written and read again. Otherwise the first line with a fault is told by its number, and the fault with
it. -/
theorem lines_decide_preferences (origin text : String) :
    ((∃ p, parse origin text = .ok p) ↔
      ∀ line ∈ Text.contents text.toList, Text.trim line = [] ∨ Legible (Text.trim line)) ∧
    (∀ p, parse origin text = .ok p →
      (∀ key value, (key, value) ∈ p.toList ↔
        LastValue (fun line v => Assigns (Text.trim line) key v) (Text.contents text.toList) value) ∧
      (∀ key value, (key, value) ∈ p.toList → IsKey key ∧ IsValue value) ∧
      ∀ other, parse other (written p.toList) = .ok p) ∧
    (∀ e, parse origin text = .error e ↔ ∃ before line after,
      Text.contents text.toList = before ++ line :: after ∧
      (∀ l ∈ before, Text.trim l = [] ∨ Legible (Text.trim l)) ∧ ∃ fault,
        HasFault (Text.trim line) fault ∧
        e = .parse origin (fault.details (before.length + 1) (Text.trim line))) ∧
    ∀ (fault fault' : LineFault) n m line other,
      fault.details n line = fault'.details m other → n = m ∧ fault = fault' := by
  refine ⟨exists_parse_eq_ok_iff_contents, fun p h => ?_, fun e => parse_eq_error_iff,
    fun _ _ _ _ _ _ => LineFault.details_inj⟩
  exact ⟨fun key value => mem_toList_iff h, fun key value => isKey_of_mem h,
    fun other => parse_written_toList h⟩

def readableText : String :=
  "# = \r\n\u00a0k\u2003: a=b:c \r\r\n\r\n! x\nlong key=1\rz\nk\t=2\n other="

def readablePreferences : Preferences := .ofList [("k", "2"), ("long key", "1\rz"), ("other", "")]

def faultyText : String := "k=1\r\n\r\n : x\njunk"

theorem lines_decide_preferences_mixed :
    parse "t" readableText = .ok readablePreferences ∧
      LastValue (fun line v => Assigns (Text.trim line) "k" v) (Text.contents readableText.toList) "2" ∧
      IsKey "long key" ∧ parse "again" (written readablePreferences.toList) = .ok readablePreferences ∧
      (∃ before line after, Text.contents faultyText.toList = before ++ line :: after ∧
        before.length + 1 = 3 ∧ HasFault (Text.trim line) .emptyKey) := by
  have hread : parse "t" readableText = .ok readablePreferences := by decide +kernel
  have hfail : parse "t" faultyText = .error (.parse "t" "line 3: empty key") := by decide +kernel
  obtain ⟨-, hreadable, -, -⟩ := lines_decide_preferences "t" readableText
  obtain ⟨-, -, hfaulty, htold⟩ := lines_decide_preferences "t" faultyText
  obtain ⟨hentries, hkeys, hagain⟩ := hreadable _ hread
  obtain ⟨before, line, after, hsplit, -, fault, hfault, he⟩ := (hfaulty _).mp hfail
  have hdetails : LineFault.emptyKey.details 3 [] =
      fault.details (before.length + 1) (Text.trim line) :=
    (by decide +kernel : _ = "line 3: empty key").trans (Failure.parse.inj he).2
  obtain ⟨hnumber, rfl⟩ := htold _ _ _ _ _ _ hdetails
  exact ⟨hread, (hentries "k" "2").mp (by decide +kernel),
    (hkeys "long key" "1\rz" (by decide +kernel)).1, hagain "again",
    before, line, after, hsplit, hnumber.symm, hfault⟩

end FormatterModules.Preferences
