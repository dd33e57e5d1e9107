import FormatterModules.Proofs.FileTree.Changes
import FormatterModules.Proofs.Fetcher.Runs
import FormatterModules.Proofs.Step.History

namespace FormatterModules

def Provisioner.ChangesOnly (p : Provisioner) (places : Set Place) : Prop :=
  ∀ coordinates (env : Environment), env.files.SameOutside places (p.provision coordinates env).2.files

def FunctionFactory.ChangesOnly (factory : FunctionFactory) (places : Set Place) : Prop :=
  ∀ state (env : Environment), env.files.SameOutside places (factory state env).2.files

namespace Provisioner

theorem changesOnly_ofRepository (r : Repository) (flag? : Option StopFlag) (places : Set Place) :
    (ofRepository r flag?).ChangesOnly places := by
  intro coordinates env
  unfold ofRepository
  dsimp only
  split <;> exact .refl _ _

theorem changesOnly_fixed (locations : OrderedSet Path) (places : Set Place) :
    (fixed locations).ChangesOnly places :=
  fun _ _ => .refl _ _

theorem ChangesOnly.metered {inner : Provisioner} {places : Set Place}
    (h : inner.ChangesOnly places) (meter : String) (failures : Nat) (failure : Failure) :
    (metered meter failures failure inner).ChangesOnly places := by
  intro coordinates env
  unfold Provisioner.metered
  dsimp only
  split
  · exact .refl _ _
  · exact h coordinates (env.tick meter)

end Provisioner

theorem JavaFormatter.factory_changesOnly (places : Set Place) :
    FunctionFactory.ChangesOnly factory places := by
  intro state env
  unfold factory
  cases bind state <;> exact .refl _ _

namespace Configuration

def downloads (c : Configuration) (files : FileTree) : Set Place :=
  {x | ∃ url, c.moduleUrl? = some url ∧ Fetcher.IsRemote url ∧
    x = c.fetcher.home files ++ [Fetcher.fileName url]}

variable {c : Configuration} {places : Set Place}

theorem sameOutside_locate (h : c.provisioner.ChangesOnly places) (env : Environment) :
    env.files.SameOutside (places ∪ c.downloads env.files) (c.locate env).2.files := by
  cases hurl : c.moduleUrl? with
  | some url =>
    rw [locate_moduleUrl hurl]
    by_cases hremote : Fetcher.IsRemote url
    · rcases c.fetcher.fetch_cases ⟨url, env⟩ with ⟨-, hgrows⟩ | ⟨_, -, -, hreplaces⟩
      · exact hgrows.sameOutside _
      · refine hreplaces.sameOutside.mono fun x hx => .inr ?_
        exact ⟨url, hurl, hremote, hx⟩
    · rw [Fetcher.environment_of_not_remote hremote]
      exact .refl _ _
  | none =>
    have hprovision := fun coordinates => (h coordinates env).mono
      (Set.subset_union_left : places ⊆ places ∪ c.downloads env.files)
    cases hd : c.dependency? with
    | some d =>
      rw [locate_dependency hurl hd]
      exact hprovision _
    | none =>
      rw [locate_version hurl hd]
      cases c.defaults.expand c.version with
      | error e => exact .refl _ _
      | ok coordinates => exact hprovision _

theorem environment_artifacts (c : Configuration) (env : Environment) :
    (c.artifacts env).2 = (c.locate env).2 := by
  rw [artifacts_eq]
  rcases c.locate env with ⟨located, env'⟩
  cases located with
  | error e => rfl
  | ok locations =>
    dsimp only
    split <;> rfl

theorem environment_resolve (c : Configuration) (cache : LoaderCache) (env : Environment) :
    (c.resolve cache env).2.2 = (c.locate env).2 := by
  rw [← environment_artifacts]
  unfold resolve
  rcases c.artifacts env with ⟨read, env'⟩
  cases read with
  | error e => rfl
  | ok artifacts =>
    dsimp only
    rcases cache.obtain artifacts c.shared with ⟨loader, cache'⟩
    cases loader with
    | error e => rfl
    | ok loader =>
      dsimp only
      cases Preferences.readFiles env'.files c.preferenceFiles <;> rfl

end Configuration

namespace Step

/-- The code of the host behind a step changes files at some places only. -/
structure ChangesOnly (step : Step) (places : Set Place) : Prop where
  provisioner : step.configuration.provisioner.ChangesOnly places
  factory : step.factory.ChangesOnly places

variable {step : Step} {places : Set Place}

theorem ChangesOnly.attempt (h : step.ChangesOnly places) (cache : LoaderCache)
    (env : Environment) :
    env.files.SameOutside (places ∪ step.configuration.downloads env.files)
      (step.attempt cache env).2.2.files := by
  have hresolve := Configuration.sameOutside_locate h.provisioner env
  rw [← step.configuration.environment_resolve cache] at hresolve
  unfold Step.attempt
  rcases hr : step.configuration.resolve cache env with ⟨state, cache', env'⟩
  rw [hr] at hresolve
  cases state with
  | error e => exact hresolve
  | ok state => exact hresolve.trans ((h.factory state env').mono Set.subset_union_left)

theorem ChangesOnly.format (h : step.ChangesOnly places) (input : String)
    (context : StepContext) :
    context.environment.files.SameOutside
      (places ∪ step.configuration.downloads context.environment.files)
      (step.format input context).2.environment.files := by
  unfold Step.format prepare
  cases context.readiness.function? with
  | some f => exact .refl _ _
  | none => exact h.attempt context.cache context.environment

/-- How formatting a file in place ends. -/
inductive InPlace (step : Step) (path : Path) (context : StepContext) :
    Attempt Bool × StepContext → Prop
  | unread {e : SystemError} (unread : context.environment.files.readText path = .error e) :
      InPlace step path context (.failed (.io e), context)
  | failed {text : String} {e : Failure} {after : StepContext}
      (read : context.environment.files.readText path = .ok text)
      (formats : step.format text context = (.failed e, after)) :
      InPlace step path context (.failed e, after)
  | panicked {text : String} {after : StepContext}
      (read : context.environment.files.readText path = .ok text)
      (formats : step.format text context = (.panicked, after)) :
      InPlace step path context (.panicked, after)
  | same {text : String} {after : StepContext}
      (read : context.environment.files.readText path = .ok text)
      (formats : step.format text context = (.ok text, after)) :
      InPlace step path context (.ok false, after)
  | unwritten {text output : String} {after : StepContext} {e : SystemError}
      (read : context.environment.files.readText path = .ok text)
      (formats : step.format text context = (.ok output, after)) (changes : output ≠ text)
      (unwritten : after.environment.files.write path (Bytes.ofText output) = .error e) :
      InPlace step path context (.failed (.io e), after)
  | written {text output : String} {after : StepContext} {files : FileTree}
      (read : context.environment.files.readText path = .ok text)
      (formats : step.format text context = (.ok output, after)) (changes : output ≠ text)
      (written : after.environment.files.write path (Bytes.ofText output) = .ok files) :
      InPlace step path context
        (.ok true, { after with environment := { after.environment with files } })

theorem formatInPlace_ends (step : Step) (path : Path) (context : StepContext) :
    InPlace step path context (step.formatInPlace path context) := by
  unfold formatInPlace
  cases hread : context.environment.files.readText path with
  | error e => exact .unread hread
  | ok text =>
    dsimp only
    rcases hformat : step.format text context with ⟨outcome, after⟩
    cases outcome with
    | failed e => exact .failed hread hformat
    | panicked => exact .panicked hread hformat
    | ok output =>
      dsimp only
      by_cases hsame : output = text
      · rw [if_pos hsame]
        exact .same hread (hsame ▸ hformat)
      · rw [if_neg hsame]
        cases hwrite : after.environment.files.write path (Bytes.ofText output) with
        | error e => exact .unwritten hread hformat hsame hwrite
        | ok files => exact .written hread hformat hsame hwrite

namespace InPlace

variable {path : Path} {context : StepContext} {result : Attempt Bool × StepContext}

theorem eq_true_iff (h : InPlace step path context result) :
    result.1 = .ok true ↔ ∃ text output written, context.environment.files.readText path = .ok text ∧
      (step.format text context).1 = .ok output ∧ output ≠ text ∧
      (step.format text context).2.environment.files.write path (Bytes.ofText output) =
        .ok written := by
  cases h with
  | unread unread => simp [unread]
  | failed read formats => simp [read, formats]
  | panicked read formats => simp [read, formats]
  | same read formats => simp [read, formats]
  | unwritten read formats _ unwritten => simp [read, formats, unwritten]
  | written read formats changes written => simp [read, formats, changes, written]

theorem eq_false_iff (h : InPlace step path context result) :
    result.1 = .ok false ↔ ∃ text, context.environment.files.readText path = .ok text ∧
      (step.format text context).1 = .ok text := by
  cases h with
  | unread unread => simp [unread]
  | failed read formats => simp [read, formats]
  | panicked read formats => simp [read, formats]
  | same read formats => simp [read, formats]
  | unwritten read formats changes _ => simp [read, formats, changes]
  | written read formats changes _ => simp [read, formats, changes]

theorem read_of_true (h : InPlace step path context result) (htrue : result.1 = .ok true) :
    ∃ text output, context.environment.files.readText path = .ok text ∧
      (step.format text context).1 = .ok output ∧
      result.2.environment.files.read path = .ok (Bytes.ofText output) := by
  cases h with
  | unread _ => cases htrue
  | failed _ _ => cases htrue
  | panicked _ _ => cases htrue
  | same _ _ => cases htrue
  | unwritten _ _ _ _ => cases htrue
  | written read formats _ written =>
    exact ⟨_, _, read, by rw [formats], (FileTree.replaces_of_write written).read⟩

theorem context_of_ne_true (h : InPlace step path context result) (hne : result.1 ≠ .ok true) :
    (∃ e, context.environment.files.readText path = .error e ∧ result = (.failed (.io e), context)) ∨
      ∃ text, context.environment.files.readText path = .ok text ∧
        result.2 = (step.format text context).2 := by
  cases h with
  | unread unread => exact .inl ⟨_, unread, rfl⟩
  | failed read formats => exact .inr ⟨_, read, by rw [formats]⟩
  | panicked read formats => exact .inr ⟨_, read, by rw [formats]⟩
  | same read formats => exact .inr ⟨_, read, by rw [formats]⟩
  | unwritten read formats _ _ => exact .inr ⟨_, read, by rw [formats]⟩
  | written _ _ _ _ => exact absurd rfl hne

theorem sameOutside (h : InPlace step path context result) (hstep : step.ChangesOnly places) :
    context.environment.files.SameOutside
      (places ∪ step.configuration.downloads context.environment.files ∪
        {x | result.1 = .ok true ∧ x = path.placeFrom context.environment.files.workingDirectory})
      result.2.environment.files := by
  by_cases htrue : result.1 = .ok true
  · cases h with
    | @written text output after files read formats _ written =>
      have hformat := hstep.format text context
      rw [formats] at hformat
      have hwrite := (FileTree.replaces_of_write written).sameOutside
      rw [hformat.workingDirectory] at hwrite
      exact (hformat.mono Set.subset_union_left).trans
        (hwrite.mono fun x hx => .inr ⟨rfl, hx⟩)
    | _ => cases htrue
  · rcases h.context_of_ne_true htrue with ⟨e, -, rfl⟩ | ⟨text, -, hcontext⟩
    · exact .refl _ _
    · rw [hcontext]
      exact (hstep.format text context).mono Set.subset_union_left

end InPlace

/-- Formatting a file is all or nothing. The answer is that it changed if and only if its text could be
read, is formatted to another text, and that text could be written; then the file has exactly that text.
The answer is that it did not change if and only if its text is formatted to itself; then nothing is
written after the text was formatted. A file that cannot be read leaves everything as it is: no engine is
resolved. In all other cases, too, the file reads the same as before. No file changes but this one, the
download of the configuration, and what the code of the host writes. -/
theorem formatInPlace_all_or_nothing (step : Step) (path : Path) (context : StepContext) :
    let files := context.environment.files
    let answer := (step.formatInPlace path context).1
    let after := (step.formatInPlace path context).2
    (answer = .ok true ↔ ∃ text output written, files.readText path = .ok text ∧
      (step.format text context).1 = .ok output ∧ output ≠ text ∧
      (step.format text context).2.environment.files.write path (Bytes.ofText output) =
        .ok written) ∧
    (answer = .ok true → ∃ text output, files.readText path = .ok text ∧
      (step.format text context).1 = .ok output ∧
      after.environment.files.read path = .ok (Bytes.ofText output) ∧
      after.environment.files.readText path = .ok output) ∧
    (answer = .ok false ↔ ∃ text, files.readText path = .ok text ∧
      (step.format text context).1 = .ok text) ∧
    (answer = .ok false → ∀ text, files.readText path = .ok text →
      after = (step.format text context).2) ∧
    (∀ e, files.readText path = .error e → answer = .failed (.io e) ∧ after = context) ∧
    ∀ places : Set Place, step.ChangesOnly places →
      (path.placeFrom files.workingDirectory ∉ places ∪ step.configuration.downloads files →
        answer ≠ .ok true → after.environment.files.read path = files.read path) ∧
      ∀ x ∉ places ∪ step.configuration.downloads files,
        (answer = .ok true → x ≠ path.placeFrom files.workingDirectory) →
          after.environment.files.file? x = files.file? x := by
  intro files answer after
  have hends := step.formatInPlace_ends path context
  refine ⟨hends.eq_true_iff, fun htrue => ?_, hends.eq_false_iff, ?_, ?_, ?_⟩
  · obtain ⟨text, output, hread, hformat, hwritten⟩ := hends.read_of_true htrue
    exact ⟨text, output, hread, hformat, hwritten, FileTree.readText_eq_ok_iff.mpr hwritten⟩
  · intro hfalse text hread
    have hne : answer ≠ .ok true := by simp [hfalse]
    rcases hends.context_of_ne_true hne with ⟨e, herror, -⟩ | ⟨other, hother, hcontext⟩
    · cases hread.symm.trans herror
    · obtain rfl := Except.ok.inj (hread.symm.trans hother)
      exact hcontext
  · intro e hread
    have hresult : step.formatInPlace path context = (.failed (.io e), context) := by
      rw [formatInPlace, hread]
    exact ⟨congrArg Prod.fst hresult, congrArg Prod.snd hresult⟩
  · intro places hstep
    have hsame := hends.sameOutside hstep
    refine ⟨fun hpath hne => ?_, fun x hx hother => hsame.files x ?_⟩
    · rcases hends.context_of_ne_true hne with ⟨e, -, hresult⟩ | ⟨text, hread, -⟩
      · exact congrArg (fun r => r.2.environment.files.read path) hresult
      · have hbytes := FileTree.readText_eq_ok_iff.mp hread
        refine (hsame.read_eq_ok ?_ hbytes).trans hbytes.symm
        rintro (hmem | ⟨htrue, -⟩)
        · exact hpath hmem
        · exact hne htrue
    · rintro (hmem | ⟨htrue, heq⟩)
      · exact hx hmem
      · exact hother htrue heq

def lineManifest : String :=
  "[module]\ngroup=''\nname=''\nversion=''\n[[class]]\nname='" ++ JavaFormatter.formatterClass ++
    "'\nentry='end-with-newline'\n"

def downloadStep : Step :=
  JavaFormatter.step { copyConfiguration with
    fetcher := Fetcher.cacheFetcher, moduleUrl? := some (Fetcher.urlOf "m") }

def downloadFiles : FileTree := Fetcher.cacheFiles.put ["s"] (.file (Bytes.ofText "x"))

def downloadContext (status : Nat) : StepContext :=
  ⟨.pending, .ofEngines .builtins,
    (Fetcher.callOf (Fetcher.urlOf "m") downloadFiles status lineManifest).environment⟩

/-- With the module, the file is formatted, and the other file in the cache directory stays. Without it,
the file stays. -/
theorem formatInPlace_all_or_nothing_download :
    let formatted := downloadStep.formatInPlace ⟨"s"⟩ (downloadContext 200)
    let rejected := downloadStep.formatInPlace ⟨"s"⟩ (downloadContext 404)
    formatted.1 = .ok true ∧
      formatted.2.environment.files.readText ⟨"s"⟩ = .ok "x\n" ∧
      formatted.2.environment.files.file? ["c", "x"] = some (.file (Bytes.ofText "x")) ∧
      rejected.1 ≠ .ok true ∧
      rejected.2.environment.files.read ⟨"s"⟩ = .ok (Bytes.ofText "x") := by
  intro formatted rejected
  have hhost : downloadStep.ChangesOnly ∅ :=
    ⟨Provisioner.changesOnly_fixed _ ∅, JavaFormatter.factory_changesOnly ∅⟩
  have hread : downloadFiles.readText ⟨"s"⟩ = .ok "x" := by decide +kernel
  have hformat : (downloadStep.format "x" (downloadContext 200)).1 = .ok "x\n" ∧
      ((downloadStep.format "x" (downloadContext 200)).2.environment.files.write ⟨"s"⟩
        (Bytes.ofText "x\n")).isOk = true := by decide +kernel
  have hfails : (downloadStep.format "x" (downloadContext 404)).1 = .failed (.invalidArgument
      "Module URL 'http://h/m' was rejected with HTTP 404 Not Found") := by decide +kernel
  have houtside : ∀ x ∈ [["s"], ["c", "x"]],
      x ∉ (∅ : Set Place) ∪ downloadStep.configuration.downloads downloadFiles := by
    rintro x hx (hmem | ⟨url, -, -, heq⟩)
    · exact hmem
    · have hhyphen : '-' ∈ (Fetcher.fileName url).toList := by simp [Fetcher.toList_fileName]
      have hplace : x = ["c", Fetcher.fileName url] := heq
      rw [hplace] at hx
      simp only [List.mem_cons, List.cons.injEq, reduceCtorEq, List.not_mem_nil, and_true,
        and_false, or_false, false_or, true_and] at hx
      rw [hx] at hhyphen
      exact absurd hhyphen (by decide)
  obtain ⟨hchanges, hholds, -, -, -, hframe⟩ :=
    formatInPlace_all_or_nothing downloadStep ⟨"s"⟩ (downloadContext 200)
  obtain ⟨hrejected, -, -, -, -, hkeeps⟩ :=
    formatInPlace_all_or_nothing downloadStep ⟨"s"⟩ (downloadContext 404)
  have hformatted : formatted.1 = .ok true := by
    cases hwrite : (downloadStep.format "x" (downloadContext 200)).2.environment.files.write ⟨"s"⟩
        (Bytes.ofText "x\n") with
    | error e =>
      rw [hwrite] at hformat
      cases hformat.2
    | ok written => exact hchanges.mpr ⟨"x", "x\n", written, hread, hformat.1, by decide, hwrite⟩
  have hnot : rejected.1 ≠ .ok true := by
    intro htrue
    obtain ⟨text, output, -, htext, houtput, -⟩ := hrejected.mp htrue
    obtain rfl := Except.ok.inj (hread.symm.trans htext)
    cases hfails.symm.trans houtput
  refine ⟨hformatted, ?_, ?_, hnot, ?_⟩
  · obtain ⟨text, output, htext, houtput, -, hwritten⟩ := hholds hformatted
    obtain rfl := Except.ok.inj (hread.symm.trans htext)
    obtain rfl := Attempt.ok.inj (hformat.1.symm.trans houtput)
    exact hwritten
  · refine ((hframe ∅ hhost).2 ["c", "x"] (houtside _ (by simp)) fun _ => ?_).trans ?_
    · decide
    · rfl
  · refine ((hkeeps ∅ hhost).1 (houtside ["s"] (by simp)) hnot).trans ?_
    exact FileTree.readText_eq_ok_iff.mp hread

end Step

end FormatterModules
