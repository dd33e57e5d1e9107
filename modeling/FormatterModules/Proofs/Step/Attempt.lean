import FormatterModules.JavaFormatter
import FormatterModules.Proofs.Configuration.History
import FormatterModules.Proofs.Configuration.Visibility

namespace FormatterModules

open LoaderCache

/-- The factory makes the same of states that differ only in the numbers of their loaders. -/
def FunctionFactory.IgnoresNumbers (factory : FunctionFactory) : Prop :=
  ∀ s t env, s.Agree t → factory s env = factory t env

/-- Where the function fails to format, it reports the text that it was given. -/
def FormatFunction.ReportsInput (f : FormatFunction) : Prop :=
  ∀ input name text diagnostic,
    f input = .failed (.formatting name text diagnostic) → text = input

namespace Configuration

variable {c : Configuration} {env : Environment}

theorem contents_subset_locatedTexts {artifacts : ArtifactSet}
    (h : (c.artifacts env).1 = .ok artifacts) : artifacts.contents ⊆ c.locatedTexts env := by
  have hartifacts : c.artifacts env = (.ok artifacts, (c.artifacts env).2) := by rw [← h]
  obtain ⟨locations, hlocate, -, hread⟩ := locate_of_artifacts hartifacts
  rw [locatedTexts, hlocate]
  exact ArtifactSet.contents_subset_textsAt hread

theorem cache_resolve (c : Configuration) (cache : LoaderCache) (env : Environment) :
    (c.resolve cache env).2.1 =
      match (c.artifacts env).1 with
      | .error _ => cache
      | .ok artifacts => (cache.obtain artifacts c.shared).2 := by
  unfold resolve
  rcases c.artifacts env with ⟨read, env'⟩
  cases read with
  | error e => rfl
  | ok artifacts =>
    dsimp only
    rcases cache.obtain artifacts c.shared with ⟨loader, cache'⟩
    cases loader with
    | error e => rfl
    | ok loader =>
      dsimp only
      cases Preferences.readFiles env'.files c.preferenceFiles <;> rfl

theorem recorded_resolve {engines : EngineTable} {requests : List Request} {cache : LoaderCache}
    (h : Recorded engines requests cache) (c : Configuration) (env : Environment) :
    ∃ more, Recorded engines (more ++ requests) (c.resolve cache env).2.1 ∧
      requestedTexts more ⊆ c.locatedTexts env := by
  rw [cache_resolve]
  cases hread : (c.artifacts env).1 with
  | error e => exact ⟨[], h, List.nil_subset _⟩
  | ok artifacts =>
    have htexts : requestedTexts [⟨artifacts, c.shared⟩] ⊆ c.locatedTexts env := by
      simpa [requestedTexts] using contents_subset_locatedTexts hread
    exact ⟨[⟨artifacts, c.shared⟩], h.obtain ⟨artifacts, c.shared⟩, htexts⟩

end Configuration

namespace Step

theorem cache_attempt (step : Step) (cache : LoaderCache) (env : Environment) :
    (step.attempt cache env).2.1 = (step.configuration.resolve cache env).2.1 := by
  unfold attempt
  rcases step.configuration.resolve cache env with ⟨state, cache', env'⟩
  cases state <;> rfl

theorem factory_of_attempt {step : Step} {cache : LoaderCache} {env : Environment}
    {f : FormatFunction} (h : (step.attempt cache env).1 = .ok f) :
    ∃ state env', (step.factory state env').1 = .ok f := by
  unfold attempt at h
  rcases hr : step.configuration.resolve cache env with ⟨state, cache', env'⟩
  rw [hr] at h
  cases state with
  | error e => cases h
  | ok state => exact ⟨state, env', h⟩

theorem attempt_eq {step : Step} (hf : step.factory.IgnoresNumbers) {engines : EngineTable}
    {requests others : List Request} {cache other : LoaderCache} {env : Environment}
    (h : Recorded engines requests cache) (ho : Recorded engines others other)
    (hc : CollisionFree
      (step.configuration.locatedTexts env ++ (requestedTexts requests ++ requestedTexts others))) :
    (step.attempt cache env).1 = (step.attempt other env).1 := by
  obtain ⟨hstates, henv⟩ := step.configuration.resolve_agree cache other env (by
    intro artifacts ha
    apply h.obtain_agree_obtain ho (r := ⟨artifacts, step.configuration.shared⟩)
    refine hc.subset ?_
    rw [requestedTexts, List.flatMap_append]
    refine List.append_subset.mpr ⟨List.append_subset.mpr ⟨?_, ?_⟩, ?_⟩
    · exact List.Subset.trans (Configuration.contents_subset_locatedTexts ha)
        (List.subset_append_left _ _)
    · exact List.Subset.trans (List.subset_append_left _ _) (List.subset_append_right _ _)
    · exact List.Subset.trans (List.subset_append_right _ _) (List.subset_append_right _ _))
  unfold attempt
  rcases hs : step.configuration.resolve cache env with ⟨s, cache', env'⟩
  rcases ht : step.configuration.resolve other env with ⟨t, other', env''⟩
  rw [hs, ht] at hstates
  obtain rfl : env' = env'' := by rw [hs, ht] at henv; exact henv
  cases hstates with
  | error e => rfl
  | ok hagree =>
    change (step.factory _ env').1 = (step.factory _ env').1
    rw [hf _ _ env' hagree]

end Step

namespace JavaFormatter

theorem bind_eq {s t : EngineState} (h : s.Agree t) : bind s = bind t := by
  have hlookup := h.loader.lookup formatterClass t.loader.id
  unfold bind EngineState.lookup
  rw [h.preferences]
  cases hs : s.loader.lookup formatterClass with
  | error e =>
    rw [hs] at hlookup
    cases ht : t.loader.lookup formatterClass with
    | error e' =>
      rw [ht] at hlookup
      cases hlookup
      rfl
    | ok d => rw [ht] at hlookup; cases hlookup
  | ok c =>
    rw [hs] at hlookup
    cases ht : t.loader.lookup formatterClass with
    | error e => rw [ht] at hlookup; cases hlookup
    | ok d =>
      rw [ht] at hlookup
      have hclass : c.renumber t.loader.id = d.renumber t.loader.id := Except.ok.inj hlookup
      -- Neither the check nor the constructor looks at the definer.
      have hcheck := congrArg (ModuleClass.checkMethod · formatterMethod) hclass
      have hmake := congrArg (ModuleClass.instantiate · t.preferences) hclass
      change c.checkMethod formatterMethod = d.checkMethod formatterMethod at hcheck
      change c.instantiate t.preferences = d.instantiate t.preferences at hmake
      dsimp only
      rw [hcheck, hmake]

theorem factory_ignoresNumbers : FunctionFactory.IgnoresNumbers factory := by
  intro s t env h
  unfold factory
  rw [bind_eq h]

theorem formatWith_reportsInput (engine : Engine) :
    FormatFunction.ReportsInput (formatWith engine) := by
  intro input name text diagnostic h
  unfold formatWith at h
  cases he : engine input with
  | ok output => rw [he] at h; cases h
  | failed e =>
    rw [he] at h
    cases h
    rfl
  | panicked => rw [he] at h; cases h

theorem reportsInput_of_factory {state : EngineState} {env : Environment} {f : FormatFunction}
    (h : (factory state env).1 = .ok f) : FormatFunction.ReportsInput f := by
  obtain ⟨engine, rfl⟩ : ∃ engine, f = formatWith engine := by
    unfold factory at h
    cases hb : bind state with
    | error e => rw [hb] at h; cases h
    | ok g =>
      rw [hb] at h
      cases h
      unfold bind at hb
      cases hl : state.lookup formatterClass with
      | error e => rw [hl] at hb; cases hb
      | ok c =>
        rw [hl] at hb
        cases hm : c.checkMethod formatterMethod with
        | error e => simp [hm] at hb
        | ok _ =>
          cases hi : c.instantiate state.preferences with
          | error e => simp [hm, hi, Except.map] at hb
          | ok engine =>
            simp only [hm, hi, Except.map, Except.ok.injEq] at hb
            exact ⟨engine, hb.symm⟩
  exact formatWith_reportsInput engine

end JavaFormatter

end FormatterModules
