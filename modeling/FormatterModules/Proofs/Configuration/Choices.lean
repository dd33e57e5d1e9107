import FormatterModules.Configuration.Editing
import FormatterModules.Proofs.Version.Selection

namespace FormatterModules

namespace Selection

def version? : Selection → Option Version
  | version v => some v
  | moduleUrl _ => none

def moduleUrl? : Selection → Option Url
  | version _ => none
  | moduleUrl url => some url

/-- Whether the selection is one that the request may make. -/
inductive Answers (supported : SupportedVersions) (requested : String) : Selection → Prop
  | version {v w : Version} (read : Version.parse? (Text.trimmed requested) = some w)
      (listed : v ∈ supported.versions) (same : (v == w) = true) :
      Answers supported requested (.version v)
  | moduleUrl {url : Url} (unread : Version.parse? (Text.trimmed requested) = none)
      (read : Url.parse (Text.trimmed requested) = .ok url)
      (fetched : url.scheme ∈ ["file", "http", "https"]) :
      Answers supported requested (.moduleUrl url)

theorem answers_of_resolve {supported : SupportedVersions} {requested : String} {s : Selection}
    (h : resolve (some requested) supported = .ok s) : Answers supported requested s := by
  cases s with
  | version v =>
    obtain ⟨w, hw, hfound⟩ := resolve_eq_version_iff.mp h
    obtain ⟨hmem, hsame⟩ := SupportedVersions.find?_eq_some hfound
    exact .version hw hmem hsame
  | moduleUrl url =>
    obtain ⟨hunread, hread, hscheme⟩ := resolve_eq_moduleUrl_iff.mp h
    exact .moduleUrl hunread hread hscheme

end Selection

namespace Choice

def selection? (supported : SupportedVersions) : Choice → Option Selection
  | version requested => (Selection.resolve (some requested) supported).toOption
  | dependency _ => none
  | preferenceFiles _ => none

def dependency? : Choice → Option (Option Coordinate)
  | version _ => none
  | dependency none => some none
  | dependency (some text) => (Coordinate.parse? text).map some
  | preferenceFiles _ => none

def files? : Choice → Option (List Path)
  | version _ => none
  | dependency _ => none
  | preferenceFiles files => some files

end Choice

namespace Configuration

variable (c : Configuration)

/-- The configuration that a choice makes of another, unless it is refused. -/
def choose : Choice → Except Failure Configuration
  | .version requested => c.chooseVersion requested
  | .dependency text? => c.chooseDependency text?
  | .preferenceFiles files => .ok (c.choosePreferenceFiles files)

theorem run_get_bind {β : Type} (f : Configuration → Edit β) :
    (get >>= f : Edit β).run.run c = (f c).run.run c := rfl

theorem run_lift_bind {α β : Type} (x : Except Failure α) (f : α → Edit β) :
    (liftM x >>= f : Edit β).run.run c =
      match x with
      | .error e => (.error e, c)
      | .ok a => (f a).run.run c := by
  cases x <;> rfl

theorem run_adopt (s : Selection) : (adopt s).run.run c = (.ok (), c.select s) := by
  cases s <;> rfl

theorem perform_eq (choice : Choice) :
    c.perform choice = ((c.choose choice).map fun _ => (), (c.choose choice).toOption.getD c) := by
  cases choice with
  | version requested =>
    simp only [perform, set, setVersion, run_get_bind, run_lift_bind, run_adopt, choose,
      chooseVersion]
    cases Selection.resolve (some requested) c.supported <;> rfl
  | dependency text? =>
    cases text? with
    | none => rfl
    | some text =>
      simp only [perform, set, setDependency, run_lift_bind, choose, chooseDependency,
        Option.mapM_some]
      cases Coordinate.parse text <;> rfl
  | preferenceFiles files => rfl

/-- What an accepted choice makes of the configuration. -/
inductive Chosen : Choice → Configuration → Prop
  | version {requested : String} {s : Selection}
      (resolved : Selection.resolve (some requested) c.supported = .ok s) :
      Chosen (.version requested) (c.select s)
  | dependency {text? : Option String} {dependency? : Option Coordinate}
      (read : (Choice.dependency text?).dependency? = some dependency?) :
      Chosen (.dependency text?) { c with dependency? }
  | preferenceFiles {files : List Path} :
      Chosen (.preferenceFiles files) { c with preferenceFiles := files }

theorem chosen_of_choose {choice : Choice} {next : Configuration}
    (h : c.choose choice = .ok next) : c.Chosen choice next := by
  cases choice with
  | version requested =>
    simp only [choose, chooseVersion] at h
    cases hs : Selection.resolve (some requested) c.supported with
    | error e => rw [hs] at h; cases h
    | ok s =>
      rw [hs] at h
      cases h
      exact .version hs
  | dependency text? =>
    cases text? with
    | none =>
      cases h
      exact .dependency rfl
    | some text =>
      simp only [choose, chooseDependency, Coordinate.parse] at h
      cases hd : Coordinate.parse? text with
      | none => rw [hd] at h; cases h
      | some d =>
        rw [hd] at h
        cases h
        exact .dependency (by rw [Choice.dependency?, hd]; rfl)
  | preferenceFiles files =>
    cases h
    exact .preferenceFiles

def decidedBy (choices : List Choice) : Configuration :=
  let selections := choices.filterMap (Choice.selection? c.supported)
  { c with
    version := (selections.filterMap Selection.version?).getLast?.getD c.version
    moduleUrl? := (selections.map Selection.moduleUrl?).getLast?.getD c.moduleUrl?
    dependency? := (choices.filterMap Choice.dependency?).getLast?.getD c.dependency?
    preferenceFiles := (choices.filterMap Choice.files?).getLast?.getD c.preferenceFiles }

theorem Chosen.decidedBy {c : Configuration} {choice : Choice} {next : Configuration}
    (h : c.Chosen choice next) : c.decidedBy [choice] = next := by
  cases h with
  | @version requested s resolved =>
    have hselected :
        [Choice.version requested].filterMap (Choice.selection? c.supported) = [s] := by
      rw [List.filterMap_cons, Choice.selection?, resolved]
      rfl
    unfold Configuration.decidedBy
    rw [hselected]
    cases s <;> rfl
  | @dependency text? dependency? read =>
    have hchosen : [Choice.dependency text?].filterMap Choice.dependency? = [dependency?] := by
      rw [List.filterMap_cons, read]
      rfl
    unfold Configuration.decidedBy
    rw [hchosen]
    rfl
  | preferenceFiles => rfl

theorem Chosen.supported {c : Configuration} {choice : Choice} {next : Configuration}
    (h : c.Chosen choice next) : next.supported = c.supported := by
  rw [← h.decidedBy]
  rfl

theorem decidedBy_append (first rest : List Choice) :
    c.decidedBy (first ++ rest) = (c.decidedBy first).decidedBy rest := by
  simp only [decidedBy, List.filterMap_append, List.map_append, List.getLast?_append,
    Option.getD_or]

theorem after_eq_decidedBy (choices : List Choice) :
    c.after choices = c.decidedBy (c.accepted choices) := by
  induction choices generalizing c with
  | nil => rfl
  | cons choice rest ih =>
    change (c.perform choice).2.after rest = _
    rw [accepted, perform_eq]
    cases h : c.choose choice with
    | error e => exact ih c
    | ok next =>
      change next.after rest = c.decidedBy ([choice] ++ next.accepted rest)
      -- What the choice decided stands unless a later choice decides it again.
      rw [decidedBy_append, (c.chosen_of_choose h).decidedBy, ih]

theorem accepted_cons (choice : Choice) (rest : List Choice) :
    (∃ next, c.Chosen choice next ∧ c.accepted (choice :: rest) = choice :: next.accepted rest) ∨
    (∃ e, c.choose choice = .error e) ∧ c.accepted (choice :: rest) = c.accepted rest := by
  rw [accepted, perform_eq]
  cases h : c.choose choice with
  | error e => exact .inr ⟨⟨e, rfl⟩, rfl⟩
  | ok next => exact .inl ⟨next, c.chosen_of_choose h, rfl⟩

theorem selection_of_accepted {choices : List Choice} {requested : String}
    (h : .version requested ∈ c.accepted choices) :
    ∃ s, (Choice.version requested).selection? c.supported = some s ∧
      s.Answers c.supported requested := by
  induction choices generalizing c with
  | nil => cases h
  | cons choice rest ih =>
    obtain ⟨next, hnext, heq⟩ | ⟨-, heq⟩ := c.accepted_cons choice rest
    · rw [heq] at h
      obtain rfl | h := List.mem_cons.mp h
      · cases hnext with
        | @version _ s resolved =>
          refine ⟨s, ?_, Selection.answers_of_resolve resolved⟩
          rw [Choice.selection?, resolved]
          rfl
      · rw [← hnext.supported]
        exact ih next h
    · rw [heq] at h
      exact ih c h

theorem filterMap_files_accepted (choices : List Choice) :
    (c.accepted choices).filterMap Choice.files? = choices.filterMap Choice.files? := by
  induction choices generalizing c with
  | nil => rfl
  | cons choice rest ih =>
    obtain ⟨next, -, heq⟩ | ⟨⟨e, he⟩, heq⟩ := c.accepted_cons choice rest
    · rw [heq, List.filterMap_cons, List.filterMap_cons, ih next]
    · rw [heq, ih c]
      cases choice with
      | version requested => rfl
      | dependency text? => rfl
      | preferenceFiles files => cases he

/-- The version is a supported one, and modules are fetched from allowed places only. -/
structure Valid : Prop where
  version : c.version ∈ c.supported.versions
  moduleUrl : ∀ url, c.moduleUrl? = some url → url.scheme ∈ ["file", "http", "https"]

theorem valid_new (name : String) (provisioner : Provisioner) (supported : SupportedVersions)
    (defaults : Coordinate.Template) (temporaryDirectory : Path) :
    (new name provisioner supported defaults temporaryDirectory).Valid :=
  ⟨supported.latest_mem, fun _ h => nomatch h⟩

variable {c}

theorem Valid.select (h : c.Valid) {requested : String} {s : Selection}
    (hs : s.Answers c.supported requested) : (c.select s).Valid := by
  cases hs with
  | version read listed same => exact ⟨listed, fun _ hurl => nomatch hurl⟩
  | moduleUrl unread read fetched =>
    refine ⟨h.version, ?_⟩
    rintro _ ⟨⟩
    exact fetched

theorem Chosen.valid {choice : Choice} {next : Configuration} (h : c.Chosen choice next)
    (hc : c.Valid) : next.Valid := by
  cases h with
  | version resolved => exact hc.select (Selection.answers_of_resolve resolved)
  | dependency read => exact ⟨hc.version, hc.moduleUrl⟩
  | preferenceFiles => exact ⟨hc.version, hc.moduleUrl⟩

theorem Valid.perform (h : c.Valid) (choice : Choice) : (c.perform choice).2.Valid := by
  rw [perform_eq]
  cases hc : c.choose choice with
  | error e => exact h
  | ok next => exact (c.chosen_of_choose hc).valid h

theorem Valid.after (h : c.Valid) (choices : List Choice) : (c.after choices).Valid := by
  induction choices generalizing c with
  | nil => exact h
  | cons choice rest ih => exact ih (h.perform choice)

/-- A configuration that was changed by any choices, some of them refused, is determined by the
accepted ones: it has the supported version that was selected last, the module URL if that was
selected after it, the last dependency and the last preference files. A refused choice changes
nothing. -/
theorem accepted_choices_decide (name : String) (provisioner : Provisioner)
    (supported : SupportedVersions) (defaults : Coordinate.Template) (temporaryDirectory : Path)
    (choices : List Choice) :
    let start := new name provisioner supported defaults temporaryDirectory
    let c := start.after choices
    let accepted := start.accepted choices
    let selections := accepted.filterMap (Choice.selection? supported)
    (c.version ∈ supported.versions ∧
      ∀ url, c.moduleUrl? = some url → url.scheme ∈ ["file", "http", "https"]) ∧
    (∀ requested, .version requested ∈ accepted →
      ∃ s, (Choice.version requested).selection? supported = some s ∧
        s.Answers supported requested) ∧
    c = { start with
      version := (selections.filterMap Selection.version?).getLast?.getD supported.latest
      moduleUrl? := selections.getLast?.bind Selection.moduleUrl?
      dependency? := (accepted.filterMap Choice.dependency?).getLast?.getD none
      preferenceFiles := (choices.filterMap Choice.files?).getLast?.getD [] } ∧
    ∀ choice e, (c.perform choice).1 = .error e → (c.perform choice).2 = c := by
  intro start c accepted selections
  have hsupported : c.supported = supported := by
    change (start.after choices).supported = supported
    rw [after_eq_decidedBy]
    rfl
  have hvalid : c.Valid := (valid_new name provisioner supported defaults _).after choices
  refine ⟨⟨hsupported ▸ hvalid.version, hvalid.moduleUrl⟩, ?_, ?_, ?_⟩
  · intro requested h
    exact start.selection_of_accepted h
  · have hurl : (selections.map Selection.moduleUrl?).getLast?.getD none =
        selections.getLast?.bind Selection.moduleUrl? := by
      rw [List.getLast?_map]
      cases selections.getLast? <;> rfl
    rw [← hurl, ← start.filterMap_files_accepted choices]
    exact start.after_eq_decidedBy choices
  · intro choice e h
    rw [perform_eq] at h ⊢
    cases hc : c.choose choice with
    | error e => rfl
    | ok next => rw [hc] at h; cases h

def mixedChoices : List Choice :=
  [.version "1", .version "3", .dependency (some "g:a:1"), .version "file:///m",
    .preferenceFiles [⟨"p"⟩], .dependency (some "g"), .version "jar:m"]

def oneAndTwo : SupportedVersions where
  versions :=
    [(Version.parse? "1.0").get (by decide +kernel), (Version.parse? "2").get (by decide +kernel)]
  versions_ne_nil := by simp

theorem accepted_choices_decide_mixed :
    let c := (new "engine" (.fixed .empty) oneAndTwo ⟨["g:a:1"]⟩ ⟨"/tmp"⟩).after mixedChoices
    c.version.render = "1.0" ∧ c.moduleUrl?.map Url.href = some "file:///m" ∧
      c.dependency?.map Coordinate.render = some "g:a:1" ∧ c.preferenceFiles = [⟨"p"⟩] ∧
      (c.perform (.version "3")).2 = c := by
  intro c
  have hrefused : (c.perform (.version "3")).1 =
      .error (Selection.unsupportedVersion "3" oneAndTwo) := by
    rfl
  refine ⟨by decide +kernel, by decide +kernel, by decide +kernel, by decide +kernel, ?_⟩
  exact (accepted_choices_decide "engine" (.fixed .empty) oneAndTwo ⟨["g:a:1"]⟩ ⟨"/tmp"⟩
    mixedChoices).2.2.2 (.version "3") _ hrefused

end Configuration

end FormatterModules
