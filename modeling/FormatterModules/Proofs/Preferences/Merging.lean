import FormatterModules.Preferences.Files
import FormatterModules.Proofs.Bytes.Utf8
import FormatterModules.Proofs.Failure.Sequence
import FormatterModules.Proofs.FileTree.Writing
import FormatterModules.Proofs.Preferences.Statements

namespace FormatterModules.Preferences

/-- There is a file at the path that can be read, and this is its text. -/
def Holds (files : FileTree) (path : Path) (text : String) : Prop :=
  ∃ bytes, files.read path = .ok bytes ∧ Bytes.IsDecoded bytes text

/-- What hinders reading a preference file: there is none, it cannot be read, or its text is
malformed. -/
inductive Fault (files : FileTree) (path : Path) : Failure → Prop
  | missing (absent : files.isFile path = false) : Fault files path (notFound path)
  | unreadable {e : SystemError} (present : files.isFile path = true)
      (failed : files.read path = .error e) : Fault files path (.io e)
  | malformed {text : String} {e : Failure} (held : Holds files path text)
      (failed : parse path.text text = .error e) : Fault files path e

variable {files : FileTree} {path : Path} {paths : List Path} {texts : List String}
  {text key value origin : String} {p : Preferences} {e : Failure}

theorem ofList_append (pairs others : List (String × String)) :
    ofList (pairs ++ others) = (ofList pairs).merge (ofList others) :=
  congrArg Preferences.mk (OrderedMap.ofList_append pairs others)

theorem parse_append_eq_ok_iff (first second : String) {a b : String} {r : Preferences} :
    parse origin (a ++ "\n" ++ b) = .ok r ↔
      ∃ p q, parse first a = .ok p ∧ parse second b = .ok q ∧ r = p.merge q := by
  rw [parse_eq_ok_iff, isLegible_append, assignments_append, ofList_append]
  simp only [parse_eq_ok_iff]
  constructor
  · rintro ⟨⟨ha, hb⟩, hr⟩
    exact ⟨_, _, ⟨ha, rfl⟩, ⟨hb, rfl⟩, hr⟩
  · rintro ⟨_, _, ⟨ha, rfl⟩, ⟨hb, rfl⟩, hr⟩
    exact ⟨⟨ha, hb⟩, hr⟩

theorem exists_holds_iff : (∃ text, Holds files path text) ↔ (files.read path).isOk = true := by
  unfold Holds
  cases files.read path with
  | error e => simp [Except.isOk, Except.toBool]
  | ok bytes => simp [Except.isOk, Except.toBool, Bytes.isDecoded_iff]

theorem load_of_read {bytes : ByteArray} (h : files.read path = .ok bytes) :
    load files path = parse path.text (Bytes.decodeUtf8OrLatin1 bytes) := by
  rw [load, if_pos (FileTree.isFile_of_read h), h]

theorem load_of_holds (h : Holds files path text) : load files path = parse path.text text := by
  obtain ⟨bytes, hread, hdecoded⟩ := h
  rw [load_of_read hread, Bytes.isDecoded_iff.mp hdecoded]

theorem load_of_not_isFile (h : files.isFile path = false) :
    load files path = .error (notFound path) := by
  rw [load, if_neg (by simp [h])]

theorem load_eq_error_iff : load files path = .error e ↔ Fault files path e := by
  constructor
  · intro h
    cases hfile : files.isFile path with
    | false =>
      rw [load_of_not_isFile hfile] at h
      cases h
      exact .missing hfile
    | true =>
      cases hread : files.read path with
      | error e' =>
        rw [load, if_pos hfile, hread] at h
        cases h
        exact .unreadable hfile hread
      | ok bytes =>
        have hholds : Holds files path _ := ⟨bytes, hread, Bytes.isDecoded_iff.mpr rfl⟩
        exact .malformed hholds ((load_of_holds hholds).symm.trans h)
  · intro h
    cases h with
    | missing absent => exact load_of_not_isFile absent
    | unreadable present failed => rw [load, if_pos present, failed]
    | malformed held failed => exact (load_of_holds held).trans failed

example : load ⟨[], .ofList [(["own"], .locked ⟨#[97, 61, 49]⟩)]⟩ ⟨"own"⟩ =
    .error (.io .permissionDenied) := by
  decide +kernel

theorem readFilesOnto_eq (files : FileTree) (p : Preferences) (paths : List Path) :
    readFilesOnto files p paths =
      (paths.mapM (load files)).map fun loaded => loaded.foldl merge p := by
  refine Failure.eq_foldl_mapM (fun _ => rfl) (fun p path paths => ?_) p paths
  rw [readFilesOnto]
  cases load files path <;> rfl

theorem readFilesOnto_eq_ok_iff (h : List.Forall₂ (Holds files) paths texts)
    (pairs : List (String × String)) :
    readFilesOnto files (ofList pairs) paths = .ok p ↔
      (∀ text ∈ texts, IsLegible text) ∧ p = ofList (pairs ++ texts.flatMap assignments) := by
  -- The preferences so far are always those of a list of pairs, to which a file adds its own.
  induction h generalizing pairs with
  | nil => simp [readFilesOnto, eq_comm]
  | @cons path text paths texts hpath _ ih =>
    rw [readFilesOnto, load_of_holds hpath, List.forall_mem_cons, List.flatMap_cons]
    cases hparse : parse path.text text with
    | error e =>
      have hnot : ¬IsLegible text := by
        intro hlegible
        obtain ⟨q, hq⟩ : ∃ q, parse path.text text = .ok q := exists_parse_eq_ok_iff.mpr hlegible
        cases hparse.symm.trans hq
      exact iff_of_false (fun hread => nomatch hread) fun hread => hnot hread.1.1
    | ok q =>
      obtain ⟨hlegible, rfl⟩ := parse_eq_ok_iff.mp hparse
      dsimp only
      rw [← ofList_append, ih, and_iff_right hlegible, List.append_assoc]

theorem readFiles_eq_ok_iff (h : List.Forall₂ (Holds files) paths texts) :
    readFiles files paths = .ok p ↔
      (∀ text ∈ texts, IsLegible text) ∧ p = ofList (texts.flatMap assignments) :=
  readFilesOnto_eq_ok_iff h []

theorem get?_ofList_flatMap_assignments :
    (ofList (texts.flatMap assignments)).get? key = some value ↔
      LastValue (fun text v => LastValue (fun statement w => Assigns statement key w)
        (statements text.toList) v) texts value := by
  refine OrderedMap.get?_ofList_eq_some_iff.trans ?_
  rw [lastValue_flatMap_iff]
  simp only [lastValue_assignments_iff]

theorem readFiles_eq_error_iff : readFiles files paths = .error e ↔
    ∃ before path after, paths = before ++ path :: after ∧ Fault files path e ∧
      ∀ earlier ∈ before, ∃ p, load files earlier = .ok p := by
  simp only [← load_eq_error_iff]
  rw [← Failure.mapM_eq_error_iff, readFiles, readFilesOnto_eq]
  cases paths.mapM (load files) <;> simp [Except.map]

theorem exists_texts_iff :
    (∃ texts, List.Forall₂ (Holds files) paths texts) ↔
      ∀ path ∈ paths, (files.read path).isOk = true := by
  induction paths with
  | nil => simp
  | cons path paths ih =>
    rw [List.forall_mem_cons, ← ih, ← exists_holds_iff]
    constructor
    · rintro ⟨_, _ | ⟨htext, htexts⟩⟩
      exact ⟨⟨_, htext⟩, _, htexts⟩
    · rintro ⟨⟨text, htext⟩, texts, htexts⟩
      exact ⟨text :: texts, .cons htext htexts⟩

/-- A text can be read if its statements can, and reading it behind another is merging what both come
to. So files come to what their texts come to as one text, if all of them have one, and each key has
the last value in the last file that gives it one. Otherwise the first file that is missing, cannot be
read or is malformed decides how reading fails. -/
theorem files_read_as_one_text :
    (∀ origin text, (∃ p, parse origin text = .ok p) ↔ IsLegible text) ∧
    (∀ origin first second a b r, parse origin (a ++ "\n" ++ b) = .ok r ↔
      ∃ p q, parse first a = .ok p ∧ parse second b = .ok q ∧ r = p.merge q) ∧
    (∀ files paths, (∃ texts, List.Forall₂ (Holds files) paths texts) ↔
      ∀ path ∈ paths, (files.read path).isOk = true) ∧
    (∀ origin files paths texts, List.Forall₂ (Holds files) paths texts →
      ((∃ p, readFiles files paths = .ok p) ↔ ∀ text ∈ texts, ∃ q, parse origin text = .ok q) ∧
      (∀ p, readFiles files paths = .ok p ↔ parse origin (Text.join "\n" texts) = .ok p) ∧
      ∀ p, readFiles files paths = .ok p → ∀ key value, p.get? key = some value ↔
        LastValue (fun text v => LastValue (fun statement w => Assigns statement key w)
          (statements text.toList) v) texts value) ∧
    ∀ files paths e, readFiles files paths = .error e ↔
      ∃ before path after, paths = before ++ path :: after ∧ Fault files path e ∧
        ∀ earlier ∈ before, ∃ p, load files earlier = .ok p := by
  refine ⟨fun origin text => exists_parse_eq_ok_iff,
    fun origin first second a b r => parse_append_eq_ok_iff first second,
    fun files paths => exists_texts_iff, fun origin files paths texts htexts => ?_,
    fun files paths e => readFiles_eq_error_iff⟩
  refine ⟨?_, fun p => ?_, fun p hread key value => ?_⟩
  · simp only [readFiles_eq_ok_iff htexts, exists_parse_eq_ok_iff, exists_and_left, exists_eq,
      and_true]
  · rw [readFiles_eq_ok_iff htexts, parse_eq_ok_iff, isLegible_join, assignments_join]
  · obtain ⟨-, rfl⟩ := (readFiles_eq_ok_iff htexts).mp hread
    exact get?_ofList_flatMap_assignments

/-- Two preference files. The first ends with a lone carriage return, and the second is no UTF-8. -/
def layeredFiles : FileTree :=
  ⟨[], .ofList [(["base"], .file (Bytes.ofText "a=1\nb=1\r")), (["own"], .file ⟨#[98, 58, 233]⟩)]⟩

theorem files_read_as_one_text_layered :
    ∃ texts, List.Forall₂ (Holds layeredFiles) [⟨"base"⟩, ⟨"own"⟩] texts ∧
      parse "both" (Text.join "\n" texts) = .ok (.ofList [("a", "1"), ("b", "é")]) ∧
      LastValue (fun text v => LastValue (fun statement w => Assigns statement "b" w)
        (statements text.toList) v) texts "é" := by
  obtain ⟨-, -, hexists, htogether, -⟩ := files_read_as_one_text
  obtain ⟨texts, htexts⟩ := (hexists layeredFiles [⟨"base"⟩, ⟨"own"⟩]).mpr (by decide +kernel)
  obtain ⟨-, hjoined, hlast⟩ := htogether "both" _ _ _ htexts
  have hread : readFiles layeredFiles [⟨"base"⟩, ⟨"own"⟩] =
      .ok (.ofList [("a", "1"), ("b", "é")]) := by
    decide +kernel
  exact ⟨texts, htexts, (hjoined _).mp hread, (hlast _ hread "b" "é").mp (by decide +kernel)⟩

end FormatterModules.Preferences
