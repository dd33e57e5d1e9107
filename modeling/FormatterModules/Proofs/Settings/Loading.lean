import FormatterModules.Settings
import FormatterModules.Proofs.Configuration.Choices
import FormatterModules.Proofs.FileTree.Changes
import FormatterModules.Proofs.Path.Directories
import FormatterModules.Proofs.Version.Requests

namespace FormatterModules

namespace Configuration

theorem accepted_of_foldlM {c next : Configuration} {choices : List Choice}
    (h : choices.foldlM choose c = .ok next) :
    c.accepted choices = choices ∧ c.after choices = next := by
  induction choices generalizing c with
  | nil =>
    cases h
    exact ⟨rfl, rfl⟩
  | cons choice rest ih =>
    rw [List.foldlM_cons] at h
    cases hc : c.choose choice with
    | error e => rw [hc] at h; cases h
    | ok first =>
      rw [hc] at h
      obtain ⟨haccepted, hafter⟩ := ih h
      have hperform : c.perform choice = (.ok (), first) := by
        rw [perform_eq, hc]
        rfl
      constructor
      · rw [accepted, hperform]
        exact congrArg _ haccepted
      · change (c.perform choice).2.after rest = next
        rw [hperform]
        exact hafter

end Configuration

namespace Settings

def directoryOf (path : Path) : Path := path.parent?.getD ⟨""⟩

def Holds (files : FileTree) (path : Path) (s : Settings) : Prop :=
  ∃ content, files.readText path = .ok content ∧
    (Toml.parse content).bind (ofToml? (directoryOf path)) = some s

/-- What a path in a settings file stands for: an absolute path for itself. -/
inductive Located (directory : Path) : Path → Path → Prop
  | absolute {p : Path} (absolute : p.isAbsolute = true) : Located directory p p
  | relative {p : Path} (relative : p.isAbsolute = false) : Located directory p (directory.join p)

def choices (s : Settings) (preferenceFiles : List Path) : List Choice :=
  (s.step.version?.map .version).toList ++
    [.dependency s.step.dependencies?, .preferenceFiles preferenceFiles]

/-- A step that is made by hand of what settings say: a new configuration for the repository, the choices
of the settings, all of which are accepted, and the cache directory. Nothing stops its resolutions. -/
inductive ByHand (temporaryDirectory directory : Path) (s : Settings) : Step → Prop
  | intro {root cacheDirectory : Path} {preferenceFiles : List Path} {start : Configuration}
      (repository : Located directory s.repository.path root)
      (preferences : List.Forall₂ (Located directory) s.step.preferences preferenceFiles)
      (cached : ∀ p, s.fetch.cacheDirectory? = some p → Located directory p cacheDirectory)
      (uncached : s.fetch.cacheDirectory? = none →
        cacheDirectory = Fetcher.defaultCacheDirectory temporaryDirectory)
      (created : JavaFormatter.configuration (.ofRepository ⟨root⟩ none) temporaryDirectory =
        .ok start)
      (accepted : start.accepted (s.choices preferenceFiles) = s.choices preferenceFiles) :
      ByHand temporaryDirectory directory s (JavaFormatter.step
        { start.after (s.choices preferenceFiles) with fetcher := ⟨cacheDirectory, none⟩ })

/-- Why no step is made of a settings file. Each test comes after those that stand before it. -/
inductive Refused (files : FileTree) (path : Path) : Failure → Prop
  | noFile (noFile : files.isFile path = false) :
      Refused files path (.configuration ("Settings file not found: " ++ path.text))
  | unread {e : SystemError} (isFile : files.isFile path = true)
      (unread : files.readText path = .error e) : Refused files path (.io e)
  | malformed {content : String} (read : files.readText path = .ok content)
      (malformed : (Toml.parse content).bind (ofToml? (directoryOf path)) = none) :
      Refused files path .toml
  | noTime {s : Settings} (holds : Holds files path s) (noTime : s.fetch.timeout = 0) :
      Refused files path (.configuration "fetch.timeout_secs must be greater than 0")
  | version {s : Settings} {requested : String} {e : Failure} (holds : Holds files path s)
      (timed : s.fetch.timeout ≠ 0) (chosen : s.step.version? = some requested)
      (refused : ¬ Selection.Accepted JavaFormatter.supported requested)
      (reason : Selection.resolve (some requested) JavaFormatter.supported = .error e) :
      Refused files path e
  | dependency {s : Settings} {text : String} (holds : Holds files path s)
      (timed : s.fetch.timeout ≠ 0)
      (accepted : ∀ requested, s.step.version? = some requested →
        Selection.Accepted JavaFormatter.supported requested)
      (chosen : s.step.dependencies? = some text) (refused : Coordinate.parse? text = none) :
      Refused files path (.invalidArgument (Coordinate.malformedText text))

variable {files : FileTree} {path : Path} {s : Settings} {e : Failure}

theorem located_iff {directory p q : Path} :
    Located directory p q ↔ q = if p.isAbsolute then p else directory.join p := by
  cases h : p.isAbsolute with
  | true =>
    constructor
    · rintro (_ | hrelative)
      · rfl
      · cases h.symm.trans hrelative
    · rintro rfl
      exact .absolute h
  | false =>
    constructor
    · rintro (habsolute | _)
      · cases h.symm.trans habsolute
      · rfl
    · rintro rfl
      exact .relative h

theorem Located.placeFrom_eq {p q : Path} (h : Located (directoryOf path) p q) {name : String}
    (hname : path.fileName? = some name) (start : Place) :
    q.placeFrom start = p.placeFrom (path.placeFrom start).dropLast := by
  cases h with
  | absolute absolute => rw [Path.placeFrom, Path.placeFrom, absolute]; rfl
  | relative relative =>
    rw [Path.placeFrom_join _ relative, Path.placeFrom_parent hname, List.dropLast_concat]
    rfl

theorem isFile_of_readText {content : String} (h : files.readText path = .ok content) :
    files.isFile path = true :=
  FileTree.isFile_of_read (FileTree.readText_eq_ok_iff.mp h)

theorem baseDirectory_of_ofToml? {directory : Path} {v : Toml.Value}
    (h : ofToml? directory v = some s) : s.baseDirectory = directory := by
  unfold ofToml? at h
  split at h
  · simp only [Option.bind_eq_bind, Option.bind_eq_some_iff] at h
    obtain ⟨step, -, repository, -, fetch, -, hs⟩ := h
    cases hs
    rfl
  · cases h

theorem Holds.baseDirectory (h : Holds files path s) : s.baseDirectory = directoryOf path := by
  obtain ⟨content, -, hdecoded⟩ := h
  obtain ⟨v, -, hv⟩ := Option.bind_eq_some_iff.mp hdecoded
  exact baseDirectory_of_ofToml? hv

theorem load_of_read {content : String} (h : files.readText path = .ok content) :
    load files path = parse content (directoryOf path) := by
  rw [load, if_pos (isFile_of_readText h), h]
  rfl

theorem Holds.load_eq (h : Holds files path s) :
    load files path =
      if s.fetch.timeout = 0 then
        .error (.configuration "fetch.timeout_secs must be greater than 0")
      else .ok s := by
  obtain ⟨content, hread, hdecoded⟩ := h
  rw [load_of_read hread, parse, hdecoded]

theorem Holds.unique {other : Settings} (h : Holds files path s) (h' : Holds files path other) :
    other = s := by
  obtain ⟨content, hread, hdecoded⟩ := h
  obtain ⟨content', hread', hdecoded'⟩ := h'
  obtain rfl := Except.ok.inj (hread.symm.trans hread')
  exact Option.some.inj (hdecoded'.symm.trans hdecoded)

theorem refused_or_holds (files : FileTree) (path : Path) :
    (∃ e, load files path = .error e ∧ Refused files path e) ∨ ∃ s, Holds files path s := by
  cases hfile : files.isFile path with
  | false => exact .inl ⟨_, by rw [load, if_neg (by simp [hfile])], .noFile hfile⟩
  | true =>
    cases hread : files.readText path with
    | error e => exact .inl ⟨_, by rw [load, if_pos hfile, hread], .unread hfile hread⟩
    | ok content =>
      cases hdecoded : (Toml.parse content).bind (ofToml? (directoryOf path)) with
      | some s => exact .inr ⟨s, content, hread, hdecoded⟩
      | none =>
        exact .inl ⟨_, by rw [load_of_read hread, parse, hdecoded], .malformed hread hdecoded⟩

theorem foldlM_version (s : Settings) (c : Configuration) :
    (s.step.version?.map Choice.version).toList.foldlM Configuration.choose c = s.applyVersion c := by
  unfold applyVersion
  cases s.step.version? with
  | none => rfl
  | some requested =>
    rw [Option.map_some, Option.toList_some, List.foldlM_cons]
    exact bind_pure (c.chooseVersion requested)

theorem foldlM_dependency (c : Configuration) (text? : Option String) (preferenceFiles : List Path) :
    [Choice.dependency text?, .preferenceFiles preferenceFiles].foldlM Configuration.choose c =
      (c.chooseDependency text?).map (·.choosePreferenceFiles preferenceFiles) := by
  rw [List.foldlM_cons, Configuration.choose]
  cases c.chooseDependency text? <;> rfl

theorem apply_eq (s : Settings) (c : Configuration) (flag? : Option StopFlag)
    (temporaryDirectory : Path) :
    s.apply c flag? temporaryDirectory =
      ((s.choices s.preferenceFiles).foldlM Configuration.choose c).map
        fun c => { c with fetcher := s.fetcher flag? temporaryDirectory } := by
  rw [apply, choices, List.foldlM_append, foldlM_version]
  cases s.applyVersion c with
  | error e => rfl
  | ok next =>
    change _ = Except.map _ (List.foldlM Configuration.choose next _)
    rw [foldlM_dependency]
    dsimp only
    cases next.chooseDependency s.step.dependencies? <;> rfl

theorem applyVersion_eq_error_iff {c : Configuration} :
    s.applyVersion c = .error e ↔ ∃ requested, s.step.version? = some requested ∧
      Selection.resolve (some requested) c.supported = .error e := by
  unfold applyVersion
  cases s.step.version? with
  | none => simp
  | some requested =>
    simp only [Configuration.chooseVersion, Option.some.injEq, exists_eq_left']
    cases Selection.resolve (some requested) c.supported <;> simp [Except.map]

theorem chooseDependency_eq_error_iff {c : Configuration} {text? : Option String} :
    c.chooseDependency text? = .error e ↔ ∃ text, text? = some text ∧
      Coordinate.parse? text = none ∧ e = .invalidArgument (Coordinate.malformedText text) := by
  unfold Configuration.chooseDependency
  cases text? with
  | none => simp
  | some text =>
    cases hp : Coordinate.parse? text <;> simp [Coordinate.parse, hp, Except.map, eq_comm]

theorem apply_eq_error_iff {c : Configuration} {flag? : Option StopFlag}
    {temporaryDirectory : Path} :
    s.apply c flag? temporaryDirectory = .error e ↔
      (∃ requested, s.step.version? = some requested ∧
        Selection.resolve (some requested) c.supported = .error e) ∨
      (∀ requested, s.step.version? = some requested →
        Selection.Accepted c.supported requested) ∧
      ∃ text, s.step.dependencies? = some text ∧ Coordinate.parse? text = none ∧
        e = .invalidArgument (Coordinate.malformedText text) := by
  rw [apply, ← applyVersion_eq_error_iff]
  cases hv : s.applyVersion c with
  | error e' =>
    obtain ⟨requested, hrequested, hrefused⟩ := applyVersion_eq_error_iff.mp hv
    have hnot : ¬ Selection.Accepted c.supported requested := by
      rw [Selection.accepted_iff, hrefused]
      simp
    simp [hrequested, hnot]
  | ok next =>
    have haccepted : ∀ requested, s.step.version? = some requested →
        Selection.Accepted c.supported requested := by
      intro requested hrequested
      rw [Selection.accepted_iff]
      cases hs : Selection.resolve (some requested) c.supported with
      | ok selection => exact ⟨selection, rfl⟩
      | error e' =>
        cases hv.symm.trans (applyVersion_eq_error_iff.mpr ⟨requested, hrequested, hs⟩)
    have hmap : ∀ (x : Except Failure Configuration) (f : Configuration → Configuration),
        x.map f = .error e ↔ x = .error e := by
      intro x f
      cases x <;> simp [Except.map]
    rw [← chooseDependency_eq_error_iff (c := next)]
    simp only [hmap, reduceCtorEq, false_or, iff_and_self]
    exact fun _ => haccepted

theorem readJavaStep_eq_error_iff {env : Environment} :
    readJavaStep env path = .error e ↔ Refused env.files path e := by
  have hstep : ∀ s : Settings, s.javaStep none env.temporaryDirectory = .error e ↔
      s.apply (.new JavaFormatter.name (s.provisioner none) JavaFormatter.supported
        ⟨JavaFormatter.coordinatePatterns⟩ env.temporaryDirectory) none env.temporaryDirectory =
          .error e := by
    intro s
    rw [javaStep, JavaFormatter.configuration_eq]
    dsimp only
    cases s.apply _ none env.temporaryDirectory <;> simp [Except.map]
  unfold readJavaStep
  constructor
  · intro h
    rcases refused_or_holds env.files path with ⟨e', hload, hrefused⟩ | ⟨s, hs⟩
    · rw [hload] at h
      exact Except.error.inj h ▸ hrefused
    · rw [hs.load_eq] at h
      by_cases htime : s.fetch.timeout = 0
      · rw [if_pos htime] at h
        exact Except.error.inj h ▸ .noTime hs htime
      · rw [if_neg htime] at h
        rcases apply_eq_error_iff.mp ((hstep s).mp h) with
          ⟨requested, hchosen, hreason⟩ | ⟨haccepted, text, hchosen, hrefused, rfl⟩
        · refine .version hs htime hchosen ?_ hreason
          rw [Selection.accepted_iff]
          rintro ⟨selection, hselection⟩
          cases hreason.symm.trans hselection
        · exact .dependency hs htime haccepted hchosen hrefused
  · intro h
    cases h with
    | noFile noFile => rw [load, if_neg (by simp [noFile])]
    | unread isFile unread => rw [load, if_pos isFile, unread]
    | malformed read malformed => rw [load_of_read read, parse, malformed]
    | noTime holds noTime => rw [holds.load_eq, if_pos noTime]
    | version holds timed chosen refused reason =>
      rw [holds.load_eq, if_neg timed]
      exact (hstep _).mpr (apply_eq_error_iff.mpr (.inl ⟨_, chosen, reason⟩))
    | dependency holds timed accepted chosen refused =>
      rw [holds.load_eq, if_neg timed]
      exact (hstep _).mpr (apply_eq_error_iff.mpr (.inr ⟨accepted, _, chosen, refused, rfl⟩))

theorem Holds.byHand {step : Step} {temporaryDirectory : Path} (hs : Holds files path s)
    (h : s.javaStep none temporaryDirectory = .ok step) :
    ByHand temporaryDirectory (directoryOf path) s step := by
  have hlocate : ∀ p, Located (directoryOf path) p (s.locate p) := by
    intro p
    rw [located_iff, locate, hs.baseDirectory]
  have hcreated := JavaFormatter.configuration_eq (s.provisioner none) temporaryDirectory
  rw [javaStep, hcreated] at h
  dsimp only at h
  rw [apply_eq] at h
  cases hchoices : (s.choices s.preferenceFiles).foldlM Configuration.choose
      (.new JavaFormatter.name (s.provisioner none) JavaFormatter.supported
        ⟨JavaFormatter.coordinatePatterns⟩ temporaryDirectory) with
  | error e => rw [hchoices] at h; cases h
  | ok next =>
    rw [hchoices] at h
    obtain rfl := Except.ok.inj h
    obtain ⟨haccepted, rfl⟩ := Configuration.accepted_of_foldlM hchoices
    refine .intro (hlocate _) ?_ ?_ ?_ hcreated haccepted
    · exact List.forall₂_map_right_iff.mpr (List.forall₂_same.mpr fun p _ => hlocate p)
    · intro p hp
      rw [hp]
      exact hlocate p
    · intro hnone
      rw [hnone]

/-- Settings are checked at once and resolved later. A step is refused exactly for the reasons that there
are, in their order. Nothing is looked at but the settings file and the name of the directory for
temporary files: with these, any environment gives the same answer. The step is one that is made by hand, and so it formats as that does. The paths of the settings
lead where they lead to from the directory in which their file stands. -/
theorem settings_checked_at_once (env : Environment) (path : Path) :
    (∀ e, readJavaStep env path = .error e ↔ Refused env.files path e) ∧
    (∀ other : Environment, other.files.find path = env.files.find path →
      other.temporaryDirectory = env.temporaryDirectory →
      readJavaStep other path = readJavaStep env path) ∧
    (∀ step, readJavaStep env path = .ok step →
      ∃ s, Holds env.files path s ∧ ByHand env.temporaryDirectory (directoryOf path) s step) ∧
    ∀ p q name, Located (directoryOf path) p q → path.fileName? = some name →
      ∀ start, q.placeFrom start = p.placeFrom (path.placeFrom start).dropLast := by
  refine ⟨fun e => readJavaStep_eq_error_iff, fun other hfind htemporary => ?_, fun step hstep => ?_,
    fun p q name hpq hname => hpq.placeFrom_eq hname⟩
  · have hread : other.files.readText path = env.files.readText path := by
      unfold FileTree.readText FileTree.read
      rw [hfind]
    have hfile : other.files.isFile path = env.files.isFile path := by
      unfold FileTree.isFile
      rw [hfind]
    unfold readJavaStep load
    rw [hread, hfile, htemporary]
  · unfold readJavaStep at hstep
    rcases refused_or_holds env.files path with ⟨e, hload, -⟩ | ⟨s, hs⟩
    · rw [hload] at hstep
      cases hstep
    · rw [hs.load_eq] at hstep
      by_cases htime : s.fetch.timeout = 0
      · rw [if_pos htime] at hstep
        cases hstep
      · rw [if_neg htime] at hstep
        exact ⟨s, hs, hs.byHand hstep⟩

def mixedDocument : String :=
  "[step]\nversion=' 4.7 '\npreferences=['p','/q']\n[repository]\npath='r'\n" ++
    "[fetch]\ncache_dir='c'\ntimeout_secs=5\n"

def refusedDocument : String := "[step]\nversion='3'\ndependencies='g'\n"

def documentFiles (document : String) : FileTree :=
  ⟨[], .ofList [(["d"], .directory), (["d", "s"], .file (Bytes.ofText document))]⟩

def documentEnvironment (document : String) : Environment :=
  .ofFiles (documentFiles document) ⟨"/tmp"⟩

def mixedSettings : Settings where
  step := ⟨some " 4.7 ", none, [⟨"p"⟩, ⟨"/q"⟩]⟩
  repository := ⟨⟨"r"⟩⟩
  fetch := ⟨some ⟨"c"⟩, 5⟩
  baseDirectory := ⟨"d"⟩

/-- The choices of the document are made, and all of its paths lie in the directory of its file but the
absolute one. The other document is refused for its version, which is tested first. -/
theorem settings_checked_at_once_mixed :
    (∃ step, readJavaStep (documentEnvironment mixedDocument) ⟨"d/s"⟩ = .ok step ∧
      step.configuration.version.render = "4.7.0" ∧
      step.configuration.preferenceFiles = [⟨"d/p"⟩, ⟨"/q"⟩] ∧
      step.configuration.fetcher.cacheDirectory = ⟨"d/c"⟩) ∧
    readJavaStep (documentEnvironment refusedDocument) ⟨"d/s"⟩ =
      .error (Selection.unsupportedVersion "3" JavaFormatter.supported) ∧
    (Path.mk "d/r").placeFrom ["w"] = ["w", "d", "r"] := by
  have hmixed : Holds (documentFiles mixedDocument) ⟨"d/s"⟩ mixedSettings :=
    ⟨mixedDocument, by decide +kernel, by decide +kernel⟩
  have hrefused : Holds (documentFiles refusedDocument) ⟨"d/s"⟩
      ⟨⟨some "3", some "g", []⟩, .standard, .standard, ⟨"d"⟩⟩ :=
    ⟨refusedDocument, by decide +kernel, by decide +kernel⟩
  obtain ⟨-, -, hmade, hpaths⟩ :=
    settings_checked_at_once (documentEnvironment mixedDocument) ⟨"d/s"⟩
  obtain ⟨hreasons, -, -, -⟩ :=
    settings_checked_at_once (documentEnvironment refusedDocument) ⟨"d/s"⟩
  refine ⟨?_, (hreasons _).mpr ?_, ?_⟩
  · have hok : (readJavaStep (documentEnvironment mixedDocument) ⟨"d/s"⟩).isOk = true := by
      decide +kernel
    cases hstep : readJavaStep (documentEnvironment mixedDocument) ⟨"d/s"⟩ with
    | error e => rw [hstep] at hok; cases hok
    | ok step =>
      obtain ⟨s, hs, hbyHand⟩ := hmade step hstep
      obtain rfl := hmixed.unique hs
      cases hbyHand with
      | @intro root cacheDirectory preferenceFiles start repository preferences cached _ created _ =>
        obtain rfl := located_iff.mp repository
        obtain rfl := Except.ok.inj ((JavaFormatter.configuration_eq _ _).symm.trans created)
        obtain rfl := located_iff.mp (cached ⟨"c"⟩ rfl)
        have hpreferences : preferenceFiles = [⟨"d/p"⟩, ⟨"/q"⟩] := by
          simp only [mixedSettings, List.forall₂_cons_left_iff, List.forall₂_nil_left_iff,
            located_iff] at preferences
          obtain ⟨first, _, rfl, ⟨second, _, rfl, rfl, rfl⟩, rfl⟩ := preferences
          decide +kernel
        subst hpreferences
        exact ⟨_, rfl, by decide +kernel, by decide +kernel, by decide +kernel⟩
  · refine .version hrefused (by decide) rfl ?_ (by rfl)
    rw [Selection.accepted_iff]
    rintro ⟨selection, hselection⟩
    cases hselection
  · rw [hpaths ⟨"r"⟩ ⟨"d/r"⟩ "s" (located_iff.mpr (by decide +kernel)) (by decide +kernel)]
    decide +kernel

end Settings

end FormatterModules
