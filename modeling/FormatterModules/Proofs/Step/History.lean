import Mathlib.Data.List.Induction
import FormatterModules.Proofs.Step.Attempt

namespace FormatterModules

open LoaderCache

theorem Readiness.function?_eq_some_iff {r : Readiness} {f : FormatFunction} :
    r.function? = some f ↔ r = .ready f := by
  cases r <;> simp [function?]

namespace Step

/-- A use of a step, and what it meets. -/
structure Use where
  input : String
  environment : Environment
  requests : List Request
  breaksOff : Bool

/-- What stays of a step between two uses. -/
structure Rest where
  readiness : Readiness
  cache : LoaderCache

def Rest.new (engines : EngineTable) : Rest := ⟨.pending, .ofEngines engines⟩

def Use.context (u : Use) (rest : Rest) : StepContext :=
  ⟨rest.readiness, rest.cache.after u.requests, u.environment⟩

def attempt? (step : Step) (u : Use) (rest : Rest) : Option (Attempt FormatFunction) :=
  if rest.readiness.isReady then none
  else if u.breaksOff then some .panicked
  else some (step.attempt (u.context rest).cache u.environment).1

def serve (step : Step) (u : Use) (rest : Rest) : Attempt String × Rest :=
  if u.breaksOff && !rest.readiness.isReady then
    (.panicked, ⟨.ofAttempt .panicked, (u.context rest).cache⟩)
  else
    let (answer, context) := step.format u.input (u.context rest)
    (answer, ⟨context.readiness, context.cache⟩)

/-- What stays of a step after all uses. -/
def after (step : Step) (rest : Rest) (uses : List Use) : Rest :=
  uses.foldl (fun rest u => (step.serve u rest).2) rest

def Bound (step : Step) (engines : EngineTable) (uses : List Use) (f : FormatFunction) : Prop :=
  ∃ earlier u, earlier ++ [u] <+: uses ∧
    step.attempt? u (step.after (.new engines) earlier) = some (.ok f)

def textsOf (step : Step) (uses : List Use) : List String :=
  uses.flatMap fun u => step.configuration.locatedTexts u.environment ++ requestedTexts u.requests

variable {step : Step} {engines : EngineTable} {uses : List Use} {u : Use} {rest : Rest}

theorem serve_ready {f : FormatFunction} (h : rest.readiness.function? = some f) (step : Step)
    (u : Use) :
    step.attempt? u rest = none ∧
      step.serve u rest = (step.apply f u.input, ⟨rest.readiness, (u.context rest).cache⟩) := by
  have hready : rest.readiness.isReady = true := by rw [Readiness.isReady, h]; rfl
  have hprepare : step.prepare (u.context rest) = (.ok f, u.context rest) := by
    rw [prepare, show (u.context rest).readiness.function? = some f from h]
  refine ⟨by rw [attempt?, if_pos hready], ?_⟩
  rw [serve, hready, Bool.not_true, Bool.and_false, if_neg Bool.false_ne_true, format, hprepare]
  rfl

theorem serve_pending (h : rest.readiness.function? = none) (step : Step) (u : Use) :
    ∃ outcome, step.attempt? u rest = some outcome ∧
      (step.serve u rest).1 = step.conclude u.input outcome ∧
      (step.serve u rest).2.readiness = .ofAttempt outcome := by
  have hready : rest.readiness.isReady = false := by rw [Readiness.isReady, h]; rfl
  cases hb : u.breaksOff with
  | true => exact ⟨.panicked, by simp [attempt?, hready, hb], by simp [serve, hready, hb, conclude],
      by simp [serve, hready, hb]⟩
  | false =>
    have hprepare : step.prepare (u.context rest) =
        ((step.attempt (u.context rest).cache u.environment).1,
          ⟨.ofAttempt (step.attempt (u.context rest).cache u.environment).1,
            (step.attempt (u.context rest).cache u.environment).2.1,
            (step.attempt (u.context rest).cache u.environment).2.2⟩) := by
      rw [prepare, show (u.context rest).readiness.function? = none from h]
      rfl
    refine ⟨(step.attempt (u.context rest).cache u.environment).1, ?_, ?_, ?_⟩
    · simp [attempt?, hready, hb]
    · simp only [serve, hb, Bool.false_and, if_neg Bool.false_ne_true, format, hprepare]
    · simp only [serve, hb, Bool.false_and, if_neg Bool.false_ne_true, format, hprepare]

theorem serve_attempt {outcome : Attempt FormatFunction} (h : step.attempt? u rest = some outcome) :
    (step.serve u rest).1 = step.conclude u.input outcome ∧
      (step.serve u rest).2.readiness = .ofAttempt outcome := by
  cases hf : rest.readiness.function? with
  | some f => cases h.symm.trans (serve_ready hf step u).1
  | none =>
    obtain ⟨outcome', hattempt, hserve⟩ := serve_pending hf step u
    obtain rfl := Option.some.inj (h.symm.trans hattempt)
    exact hserve

theorem recorded_serve {requests : List Request} (h : Recorded engines requests rest.cache)
    (step : Step) (u : Use) :
    ∃ more, Recorded engines (more ++ requests) (step.serve u rest).2.cache ∧
      requestedTexts more ⊆ step.textsOf [u] := by
  have htexts : step.textsOf [u] =
      step.configuration.locatedTexts u.environment ++ requestedTexts u.requests := by
    simp [textsOf]
  have hothers : Recorded engines (u.requests ++ requests) (u.context rest).cache :=
    h.after u.requests
  rw [htexts]
  unfold serve
  by_cases hb : (u.breaksOff && !rest.readiness.isReady) = true
  · rw [if_pos hb]
    exact ⟨u.requests, hothers, List.subset_append_right _ _⟩
  · rw [if_neg hb]
    change ∃ more, Recorded engines (more ++ requests)
      (step.prepare (u.context rest)).2.cache ∧ _
    unfold prepare
    cases (u.context rest).readiness.function? with
    | some f => exact ⟨u.requests, hothers, List.subset_append_right _ _⟩
    | none =>
      obtain ⟨more, hmore, hsub⟩ :=
        Configuration.recorded_resolve hothers step.configuration u.environment
      refine ⟨more ++ u.requests, ?_, ?_⟩
      · rw [List.append_assoc]
        change Recorded engines _ (step.attempt (u.context rest).cache u.environment).2.1
        rwa [cache_attempt]
      · rw [requestedTexts, List.flatMap_append]
        exact List.append_subset.mpr ⟨List.Subset.trans hsub (List.subset_append_left _ _),
          List.subset_append_right _ _⟩

theorem after_concat (step : Step) (rest : Rest) (uses : List Use) (u : Use) :
    step.after rest (uses ++ [u]) = (step.serve u (step.after rest uses)).2 := by
  rw [after, List.foldl_append]
  rfl

theorem recorded_run (step : Step) (engines : EngineTable) (uses : List Use) :
    ∃ requests, Recorded engines requests (step.after (.new engines) uses).cache ∧
      requestedTexts requests ⊆ step.textsOf uses := by
  induction uses using List.reverseRecOn with
  | nil => exact ⟨[], recorded_ofEngines engines, List.nil_subset _⟩
  | append_singleton uses u ih =>
    obtain ⟨requests, hrecorded, hsub⟩ := ih
    obtain ⟨more, hmore, hu⟩ := recorded_serve hrecorded step u
    refine ⟨more ++ requests, by rwa [after_concat], ?_⟩
    rw [requestedTexts, List.flatMap_append, textsOf, List.flatMap_append]
    exact List.append_subset.mpr ⟨List.Subset.trans hu (List.subset_append_right _ _),
      List.Subset.trans hsub (List.subset_append_left _ _)⟩

theorem bound_concat {f : FormatFunction} :
    step.Bound engines (uses ++ [u]) f ↔
      step.Bound engines uses f ∨
        step.attempt? u (step.after (.new engines) uses) = some (.ok f) := by
  constructor
  · rintro ⟨earlier, v, hprefix, hv⟩
    rcases List.prefix_concat_iff.mp hprefix with heq | hprefix
    · obtain ⟨rfl, hlast⟩ := List.append_inj' heq rfl
      obtain rfl := List.singleton_inj.mp hlast
      exact .inr hv
    · exact .inl ⟨earlier, v, hprefix, hv⟩
  · rintro (⟨earlier, v, hprefix, hv⟩ | hu)
    · exact ⟨earlier, v, hprefix.trans (List.prefix_append _ _), hv⟩
    · exact ⟨uses, u, List.prefix_rfl, hu⟩

theorem function?_after (step : Step) (engines : EngineTable) (uses : List Use)
    (f : FormatFunction) :
    (step.after (.new engines) uses).readiness.function? = some f ↔ step.Bound engines uses f := by
  induction uses using List.reverseRecOn with
  | nil =>
    constructor
    · intro h
      cases h
    · rintro ⟨earlier, u, hprefix, -⟩
      simp at hprefix
  | append_singleton uses u ih =>
    rw [bound_concat, after_concat, ← ih]
    cases hf : (step.after (.new engines) uses).readiness.function? with
    | some g =>
      obtain ⟨hattempt, hserve⟩ := serve_ready hf step u
      rw [hserve, hattempt, hf]
      simp
    | none =>
      obtain ⟨outcome, hattempt, -, hreadiness⟩ := serve_pending hf step u
      rw [hreadiness, hattempt]
      cases outcome <;> simp [Readiness.ofAttempt, Readiness.function?]

theorem subset_textsOf_concat (step : Step) (uses : List Use) (u : Use) :
    step.textsOf uses ⊆ step.textsOf (uses ++ [u]) ∧
      step.configuration.locatedTexts u.environment ++ requestedTexts u.requests ⊆
        step.textsOf (uses ++ [u]) := by
  have htexts : step.textsOf (uses ++ [u]) = step.textsOf uses ++
      (step.configuration.locatedTexts u.environment ++ requestedTexts u.requests) := by
    simp [textsOf]
  rw [htexts]
  exact ⟨List.subset_append_left _ _, List.subset_append_right _ _⟩

theorem attempt?_eq_new (hf : step.factory.IgnoresNumbers)
    (hc : CollisionFree (step.textsOf (uses ++ [u]))) {outcome : Attempt FormatFunction}
    (h : step.attempt? u (step.after (.new engines) uses) = some outcome)
    (hb : u.breaksOff = false) :
    outcome = (step.prepare ⟨.pending, .ofEngines engines, u.environment⟩).1 := by
  obtain ⟨requests, hrecorded, hsub⟩ := recorded_run step engines uses
  obtain ⟨huses, hu⟩ := subset_textsOf_concat step uses u
  have hcache := hrecorded.after u.requests
  have hattempt := attempt_eq hf hcache (recorded_ofEngines engines) (hc.subset (by
    rw [requestedTexts, List.flatMap_append]
    refine List.append_subset.mpr ⟨List.Subset.trans (List.subset_append_left _ _) hu, ?_⟩
    refine List.append_subset.mpr ⟨?_, List.nil_subset _⟩
    exact List.append_subset.mpr
      ⟨List.Subset.trans (List.subset_append_right _ _) hu, List.Subset.trans hsub huses⟩))
  unfold attempt? at h
  rw [hb] at h
  split at h
  · cases h
  · obtain rfl := Option.some.inj h
    exact hattempt

theorem apply_cases (step : Step) (f : FormatFunction) (input : String) :
    (∀ output, f input = .ok output → step.apply f input = .ok output) ∧
    (∀ name text diagnostic, f input = .failed (.formatting name text diagnostic) →
      step.apply f input = .failed (.formatting name text diagnostic)) ∧
    (∀ e, (∀ name text diagnostic, e ≠ .formatting name text diagnostic) → f input = .failed e →
      step.apply f input = .failed (.formatting step.name input e.message)) ∧
    (f input = .panicked → step.apply f input = .panicked) := by
  refine ⟨fun output h => by rw [apply, h], fun name text diagnostic h => ?_, fun e he h => ?_,
    fun h => by rw [apply, h]⟩
  · rw [apply, h]
    rfl
  · rw [apply, h]
    cases e with
    | formatting name text diagnostic => exact absurd rfl (he name text diagnostic)
    | _ => rfl

theorem apply_reportsInput {f : FormatFunction} (hf : f.ReportsInput) (step : Step) {input : String}
    {e : Failure} (h : step.apply f input = .failed e) :
    ∃ name diagnostic, e = .formatting name input diagnostic := by
  obtain ⟨hok, hown, hother, hbreaks⟩ := step.apply_cases f input
  cases hresult : f input with
  | ok output => cases (hok output hresult).symm.trans h
  | panicked => cases (hbreaks hresult).symm.trans h
  | failed e' =>
    cases e' with
    | formatting name text diagnostic =>
      rw [hown name text diagnostic hresult, hf input name text diagnostic hresult] at h
      cases h
      exact ⟨name, diagnostic, rfl⟩
    | _ =>
      rw [hother _ (fun _ _ _ heq => by cases heq) hresult] at h
      cases h
      exact ⟨step.name, _, rfl⟩

/-- Attempts that fail leave no trace. A use makes an attempt if and only if none before it came to a
function. An attempt is reported by its own use, and comes to what it comes to in a new step. From the
first function on, every use is answered with it, whatever the environment has become. A failure to
format that the function reports itself is passed on; any other is reported with the text. Where the
function breaks off, so does the use. -/
theorem attempts_leave_no_trace (step : Step) (engines : EngineTable) (uses : List Use) (u : Use)
    (hfactory : step.factory.IgnoresNumbers)
    (hc : CollisionFree (step.textsOf (uses ++ [u]))) :
    let rest := step.after (.new engines) uses
    let attempt? := step.attempt? u rest
    let answer := (step.serve u rest).1
    let left := (step.serve u rest).2.readiness
    (attempt?.isSome = true ↔ ∀ f, ¬ step.Bound engines uses f) ∧
    (attempt? = none → (step.format u.input (u.context rest)).2 = u.context rest) ∧
    (∀ e, attempt? = some (.failed e) →
      answer = .failed e ∧ left.lastFailure? = some e.message ∧ left.isReady = false) ∧
    (attempt? = some .panicked →
      answer = .panicked ∧ left.lastFailure? = some "materialization panicked" ∧
        left.isReady = false) ∧
    (∀ outcome, attempt? = some outcome → u.breaksOff = false →
      outcome = (step.prepare ⟨.pending, .ofEngines engines, u.environment⟩).1) ∧
    ∀ f, step.Bound engines (uses ++ [u]) f →
      left = .ready f ∧ left.lastFailure? = none ∧ left.isReady = true ∧
      (∀ output, f u.input = .ok output → answer = .ok output) ∧
      (∀ name text diagnostic, f u.input = .failed (.formatting name text diagnostic) →
        answer = .failed (.formatting name text diagnostic)) ∧
      (∀ e, (∀ name text diagnostic, e ≠ .formatting name text diagnostic) →
        f u.input = .failed e → answer = .failed (.formatting step.name u.input e.message)) ∧
      (f u.input = .panicked → answer = .panicked) ∧
      (f.ReportsInput → ∀ e, answer = .failed e →
        ∃ name diagnostic, e = .formatting name u.input diagnostic) := by
  intro rest attempt? answer left
  have hbound : ∀ f, rest.readiness.function? = some f ↔ step.Bound engines uses f :=
    step.function?_after engines uses
  have hleft : ∀ f, left.function? = some f ↔ step.Bound engines (uses ++ [u]) f := by
    intro f
    rw [← step.function?_after engines (uses ++ [u]) f, after_concat]
  refine ⟨?_, ?_, ?_, ?_, fun outcome h hb => attempt?_eq_new hfactory hc h hb, ?_⟩
  · simp only [← hbound]
    cases hf : rest.readiness.function? with
    | some f => simp [attempt?, serve_ready hf step u]
    | none =>
      obtain ⟨outcome, hattempt, -⟩ := serve_pending hf step u
      simp [attempt?, hattempt]
  · intro hnone
    cases hf : rest.readiness.function? with
    | some f =>
      rw [format, prepare, show (u.context rest).readiness.function? = some f from hf]
    | none =>
      obtain ⟨outcome, hattempt, -⟩ := serve_pending hf step u
      cases hnone.symm.trans hattempt
  · intro e he
    obtain ⟨hanswer, hreadiness⟩ := serve_attempt he
    rw [show answer = _ from hanswer, show left = _ from hreadiness]
    exact ⟨rfl, rfl, rfl⟩
  · intro hpanicked
    obtain ⟨hanswer, hreadiness⟩ := serve_attempt hpanicked
    rw [show answer = _ from hanswer, show left = _ from hreadiness]
    exact ⟨rfl, rfl, rfl⟩
  · intro f hf
    have hready : left = .ready f := Readiness.function?_eq_some_iff.mp ((hleft f).mpr hf)
    have happlied : answer = step.apply f u.input := by
      rcases bound_concat.mp hf with hearlier | hnow
      · exact congrArg Prod.fst (serve_ready ((hbound f).mpr hearlier) step u).2
      · exact (serve_attempt hnow).1
    obtain ⟨hok, hown, hother, hbreaks⟩ := step.apply_cases f u.input
    rw [happlied, hready]
    exact ⟨rfl, rfl, rfl, hok, hown, hother, hbreaks,
      fun hreports e he => apply_reportsInput hreports step he⟩

theorem factory_of_bound {f : FormatFunction} (h : step.Bound engines uses f) :
    ∃ state env, (step.factory state env).1 = .ok f := by
  obtain ⟨earlier, u, -, hu⟩ := h
  unfold attempt? at hu
  split at hu
  · cases hu
  · split at hu
    · cases hu
    · exact factory_of_attempt (Option.some.inj hu)

theorem reportsInput_of_bound {c : Configuration} {f : FormatFunction}
    (h : (JavaFormatter.step c).Bound engines uses f) : f.ReportsInput := by
  obtain ⟨state, env, hf⟩ := factory_of_bound h
  exact JavaFormatter.reportsInput_of_factory hf

def importsManifest : String :=
  "[module]\ngroup=''\nname=''\nversion=''\n[[class]]\nname='" ++ JavaFormatter.formatterClass ++
    "'\nentry='import-order'\n"

def environmentOf (nodes : List (Place × FileNode)) : Environment :=
  .ofFiles ⟨[], .ofList nodes⟩ ⟨"/tmp"⟩

def importsEnvironment : Environment :=
  environmentOf [(["b"], .directory), (["b", "m"], .file (Bytes.ofText importsManifest))]

/-- At first the module is missing, then the attempt breaks off, and then there is a function. -/
def importsUses : List Use :=
  [⟨"", environmentOf [], [], false⟩, ⟨"", importsEnvironment, [], true⟩,
    ⟨"", importsEnvironment, [], false⟩]

def lateUse : Use := ⟨"import x", environmentOf [], [], false⟩

theorem attempts_leave_no_trace_imports :
    let step := JavaFormatter.step copyConfiguration
    (∃ f, step.Bound .builtins importsUses f) ∧
      step.attempt? lateUse (step.after (.new .builtins) importsUses) = none ∧
      (step.serve lateUse (step.after (.new .builtins) importsUses)).1 =
        .failed (.formatting "java formatter" "import x" "line 1: malformed import 'import x'") := by
  intro step
  have hanswer : (((step.attempt? importsUses[2] (step.after (.new .builtins)
      (importsUses.take 2))).bind fun outcome => (Readiness.ofAttempt outcome).function?).map
        fun f => f "import x") = some (.failed
        (.formatting "java formatter" "import x" "line 1: malformed import 'import x'")) := by
    decide +kernel
  obtain ⟨f, hf, hfails⟩ : ∃ f, step.attempt? importsUses[2] (step.after (.new .builtins)
      (importsUses.take 2)) = some (.ok f) ∧ f "import x" = .failed
        (.formatting "java formatter" "import x" "line 1: malformed import 'import x'") := by
    obtain ⟨f, hbind, hfails⟩ := Option.map_eq_some_iff.mp hanswer
    obtain ⟨outcome, hattempt, hready⟩ := Option.bind_eq_some_iff.mp hbind
    cases outcome with
    | ok g =>
      obtain rfl := Option.some.inj hready
      exact ⟨g, hattempt, hfails⟩
    | failed e => cases hready
    | panicked => cases hready
  have hbound : step.Bound .builtins importsUses f := ⟨_, _, List.prefix_rfl, hf⟩
  have htexts : step.textsOf (importsUses ++ [lateUse]) = [importsManifest, importsManifest] := by
    decide +kernel
  have hc : CollisionFree (step.textsOf (importsUses ++ [lateUse])) := by
    rw [htexts]
    exact collisionFree_pair fun _ => rfl
  obtain ⟨hstarts, -, -, -, -, hresults⟩ := attempts_leave_no_trace step .builtins importsUses
    lateUse JavaFormatter.factory_ignoresNumbers hc
  obtain ⟨-, -, -, -, hreported, -, -, -⟩ := hresults f (bound_concat.mpr (.inl hbound))
  refine ⟨⟨f, hbound⟩, ?_, hreported _ _ _ hfails⟩
  cases hattempt : step.attempt? lateUse (step.after (.new .builtins) importsUses) with
  | none => rfl
  | some outcome => exact absurd hbound (hstarts.mp (by rw [hattempt]; rfl) f)

def ownFailure : FunctionFactory := fun _ env =>
  (.ok fun _ => .failed (.formatting "inner" "inner input" "malformed"), env)

theorem failure_with_other_text :
    ¬ ∀ (step : Step) (engines : EngineTable) (uses : List Use) (u : Use) (f : FormatFunction),
      step.factory.IgnoresNumbers → CollisionFree (step.textsOf (uses ++ [u])) →
      step.Bound engines (uses ++ [u]) f →
      ∀ e, (step.serve u (step.after (.new engines) uses)).1 = .failed e →
        ∃ name diagnostic, e = .formatting name u.input diagnostic := by
  intro hclaim
  let step : Step := ⟨"step", copyConfiguration, ownFailure⟩
  let u : Use := ⟨"x", importsEnvironment, [], false⟩
  have hc : CollisionFree (step.textsOf ([] ++ [u])) := by
    have htexts : step.textsOf ([] ++ [u]) = [importsManifest] := by decide +kernel
    rw [htexts]
    exact (collisionFree_pair fun _ => rfl).subset (List.subset_cons_self importsManifest _)
  have hattempt : ∃ f, step.attempt? u (.new .builtins) = some (.ok f) ∧
      f "x" = .failed (.formatting "inner" "inner input" "malformed") := by
    have hok : (copyConfiguration.resolve (.ofEngines .builtins) importsEnvironment).1.isOk =
        true := by decide +kernel
    change ∃ f, some (step.attempt (.ofEngines .builtins) importsEnvironment).1 = _ ∧ _
    unfold attempt
    rcases hr : copyConfiguration.resolve (.ofEngines .builtins) importsEnvironment with
      ⟨state, cache, env⟩
    rw [hr] at hok
    cases state with
    | error e => cases hok
    | ok state => exact ⟨_, rfl, rfl⟩
  obtain ⟨f, hf, hfails⟩ := hattempt
  have hserve := (serve_attempt hf).1
  have hanswer : (step.serve u (.new .builtins)).1 =
      .failed (.formatting "inner" "inner input" "malformed") := by
    rw [hserve]
    change step.apply f "x" = _
    rw [apply, hfails]
    rfl
  obtain ⟨name, diagnostic, heq⟩ := hclaim step .builtins [] u f (fun _ _ _ _ => rfl) hc
    (bound_concat.mpr (.inr hf)) _ hanswer
  simp only [Failure.formatting.injEq] at heq
  exact absurd heq.2.1 (by decide)

end Step

end FormatterModules
