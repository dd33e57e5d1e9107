import FormatterModules.Proofs.Configuration.Interruption
import FormatterModules.Proofs.Step.History
import Mathlib.Logic.Function.Basic

namespace FormatterModules

namespace Step

theorem format_interrupted {step : Step} {flag : StopFlag} {context : StepContext}
    (h : step.configuration.Watches flag) (hfile : ¬ step.configuration.SelectsFile)
    (henv : context.environment.isRaised flag = true)
    (hpending : context.readiness.function? = none) (input : String) :
    step.format input context =
      (.failed .interrupted,
        { context with readiness := .failed Failure.interrupted.message }) := by
  have hattempt : step.attempt context.cache context.environment =
      (.failed .interrupted, context.cache, context.environment) := by
    rw [attempt, Configuration.resolve_interrupted h hfile henv]
  have hprepare : step.prepare context =
      (.failed .interrupted,
        { context with readiness := .failed Failure.interrupted.message }) := by
    rw [prepare, hpending, hattempt]
    rfl
  rw [format, hprepare]
  rfl

theorem format_ready {context : StepContext} {f : FormatFunction}
    (h : context.readiness.function? = some f) (step : Step) (input : String) :
    step.format input context = (step.apply f input, context) := by
  rw [format, prepare, h]
  rfl

theorem format_congr {r other : Readiness} (h : r.function? = other.function?) (step : Step)
    (input : String) (cache : LoaderCache) (env : Environment) :
    step.format input ⟨r, cache, env⟩ = step.format input ⟨other, cache, env⟩ := by
  cases hr : r.function? with
  | none =>
    have hother : other.function? = none := h ▸ hr
    unfold format prepare
    rw [hr, hother]
  | some f =>
    have hother : other.function? = some f := h ▸ hr
    rw [Readiness.function?_eq_some_iff.mp hr, Readiness.function?_eq_some_iff.mp hother]

end Step

/-- Steps that share a cache and an environment. -/
structure Host (ι : Type) where
  readiness : ι → Readiness
  cache : LoaderCache
  environment : Environment

namespace Host

/-- What happens at a host. -/
inductive Event (ι : Type)
  | get (c : Configuration)
  | format (i : ι) (input : String)
  | change (files : FileTree) (network : Network) (requests : List LoaderCache.Request)

namespace Event

variable {ι : Type}

def isChange : Event ι → Bool
  | change .. => true
  | _ => false

/-- The configuration that is resolved when the event happens, unless a step has its function. -/
def configuration? (steps : ι → Step) : Event ι → Option Configuration
  | get c => some c
  | format i _ => some (steps i).configuration
  | change .. => none

end Event

inductive Answer
  | state (outcome : Except Failure EngineState)
  | text (outcome : Attempt String)

variable {ι : Type}

def raise (host : Host ι) (flag : StopFlag) : Host ι :=
  { host with environment := host.environment.raise flag }

def lower (host : Host ι) (flag : StopFlag) : Host ι :=
  { host with environment := host.environment.lower flag }

/-- The hosts differ at most in why steps have no function. -/
structure Resembles (host other : Host ι) : Prop where
  function : ∀ i, (host.readiness i).function? = (other.readiness i).function?
  cache : host.cache = other.cache
  environment : host.environment = other.environment

def stopped (steps : ι → Step) (host : Host ι) : Event ι → Option Answer
  | .get _ => some (.state (.error .interrupted))
  | .format i input =>
    match (host.readiness i).function? with
    | some f => some (.text ((steps i).apply f input))
    | none => some (.text (.failed .interrupted))
  | .change .. => none

theorem stopped_congr {host other : Host ι}
    (h : ∀ i, (host.readiness i).function? = (other.readiness i).function?) (steps : ι → Step) :
    host.stopped steps = other.stopped steps := by
  funext e
  cases e with
  | get c => rfl
  | format i input => rw [stopped, stopped, h i]
  | change files network requests => rfl

variable [DecidableEq ι]

/-- The answer to an event, if it is one that is answered, and the host after it. -/
def handle (steps : ι → Step) (host : Host ι) : Event ι → Option Answer × Host ι
  | .get c =>
    let (outcome, cache, environment) := c.resolve host.cache host.environment
    (some (.state outcome), { host with cache, environment })
  | .format i input =>
    let (outcome, context) :=
      (steps i).format input ⟨host.readiness i, host.cache, host.environment⟩
    (some (.text outcome),
      ⟨Function.update host.readiness i context.readiness, context.cache, context.environment⟩)
  | .change files network requests =>
    (none, { host with
      cache := host.cache.after requests
      environment := { host.environment with files, network } })

def after (steps : ι → Step) (host : Host ι) (events : List (Event ι)) : Host ι :=
  events.foldl (fun host e => (host.handle steps e).2) host

def answers (steps : ι → Step) (host : Host ι) : List (Event ι) → List (Option Answer)
  | [] => []
  | e :: rest => (host.handle steps e).1 :: answers steps (host.handle steps e).2 rest

variable {steps : ι → Step} {flag : StopFlag} {host other : Host ι}

theorem Resembles.handle (h : host.Resembles other) (steps : ι → Step) (e : Event ι) :
    (host.handle steps e).1 = (other.handle steps e).1 ∧
      (host.handle steps e).2.Resembles (other.handle steps e).2 := by
  cases e with
  | get c =>
    unfold Host.handle
    rw [h.cache, h.environment]
    exact ⟨rfl, h.function, rfl, rfl⟩
  | format i input =>
    unfold Host.handle
    dsimp only
    rw [h.cache, h.environment, Step.format_congr (h.function i)]
    refine ⟨rfl, fun j => ?_, rfl, rfl⟩
    dsimp only
    by_cases hj : j = i
    · rw [hj, Function.update_self, Function.update_self]
    · rw [Function.update_of_ne hj, Function.update_of_ne hj]
      exact h.function j
  | change files network requests =>
    unfold Host.handle
    rw [h.cache, h.environment]
    exact ⟨rfl, h.function, rfl, rfl⟩

theorem Resembles.answers (h : host.Resembles other) (steps : ι → Step) (events : List (Event ι)) :
    host.answers steps events = other.answers steps events := by
  induction events generalizing host other with
  | nil => rfl
  | cons e rest ih =>
    obtain ⟨hanswer, hnext⟩ := h.handle steps e
    rw [Host.answers, Host.answers, hanswer, ih hnext]

theorem handle_raised {e : Event ι} (hraised : host.environment.isRaised flag = true)
    (hwatch : ∀ c, e.configuration? steps = some c → c.Watches flag ∧ ¬ c.SelectsFile) :
    (host.handle steps e).1 = host.stopped steps e ∧
      (e.isChange = false → (host.handle steps e).2.Resembles host) := by
  cases e with
  | get c =>
    obtain ⟨hc, hfile⟩ := hwatch c rfl
    dsimp only [handle]
    rw [Configuration.resolve_interrupted hc hfile hraised]
    exact ⟨rfl, fun _ => ⟨fun _ => rfl, rfl, rfl⟩⟩
  | format i input =>
    obtain ⟨hc, hfile⟩ := hwatch _ rfl
    dsimp only [handle, stopped]
    cases hf : (host.readiness i).function? with
    | some f =>
      rw [Step.format_ready hf]
      refine ⟨rfl, fun _ => ⟨fun j => ?_, rfl, rfl⟩⟩
      dsimp only
      rw [Function.update_eq_self]
    | none =>
      rw [Step.format_interrupted hc hfile hraised hf]
      refine ⟨rfl, fun _ => ⟨fun j => ?_, rfl, rfl⟩⟩
      by_cases hj : j = i
      · rw [hj, hf]
        simp [Readiness.function?]
      · dsimp only
        rw [Function.update_of_ne hj]
  | change files network requests => exact ⟨rfl, fun h => absurd h Bool.noConfusion⟩

theorem handle_change {e : Event ι} (h : e.isChange = true) (steps : ι → Step) (flag : StopFlag)
    (host : Host ι) :
    ((host.raise flag).handle steps e).2 = (host.handle steps e).2.raise flag ∧
      (host.handle steps e).2.readiness = host.readiness ∧
      (host.handle steps e).2.environment.raised = host.environment.raised := by
  cases e with
  | get c => cases h
  | format i input => cases h
  | change files network requests => exact ⟨rfl, rfl, rfl⟩

theorem after_changes (steps : ι → Step) (host : Host ι) (events : List (Event ι)) :
    (host.after steps (events.filter Event.isChange)).readiness = host.readiness ∧
      (host.after steps (events.filter Event.isChange)).environment.raised =
        host.environment.raised := by
  induction events generalizing host with
  | nil => exact ⟨rfl, rfl⟩
  | cons e rest ih =>
    rw [List.filter_cons]
    split
    · next he =>
      obtain ⟨-, hreadiness, hraised⟩ := handle_change he steps ⟨""⟩ host
      obtain ⟨ihreadiness, ihraised⟩ := ih (host.handle steps e).2
      exact ⟨ihreadiness.trans hreadiness, ihraised.trans hraised⟩
    · exact ih host

theorem after_raised {during : List (Event ι)}
    (hwatch : ∀ e ∈ during, ∀ c, e.configuration? steps = some c →
      c.Watches flag ∧ ¬ c.SelectsFile)
    (h : host.Resembles (other.raise flag)) :
    host.answers steps during = during.map (other.stopped steps) ∧
      (host.after steps during).Resembles
        ((other.after steps (during.filter Event.isChange)).raise flag) := by
  induction during generalizing host other with
  | nil => exact ⟨rfl, h⟩
  | cons e rest ih =>
    have hrest := fun e' he' => hwatch e' (List.mem_cons_of_mem e he')
    have hraised : host.environment.isRaised flag = true := by
      rw [h.environment]
      exact Environment.isRaised_raise _ flag
    obtain ⟨hanswer, hleft⟩ := handle_raised hraised (hwatch e List.mem_cons_self)
    rw [stopped_congr h.function] at hanswer
    rw [answers, hanswer, List.map_cons, List.filter_cons]
    cases he : e.isChange with
    | false =>
      -- The call is as if it had not been made.
      have hleft := hleft he
      have hnext : (host.handle steps e).2.Resembles (other.raise flag) :=
        ⟨fun i => (hleft.function i).trans (h.function i), hleft.cache.trans h.cache,
          hleft.environment.trans h.environment⟩
      obtain ⟨hanswers, hafter⟩ := ih hrest hnext
      exact ⟨congrArg _ hanswers, hafter⟩
    | true =>
      obtain ⟨hchange, hreadiness, -⟩ := handle_change he steps flag other
      have hnext := (h.handle steps e).2
      rw [hchange] at hnext
      obtain ⟨hanswers, hafter⟩ := ih hrest hnext
      have hstopped : (other.handle steps e).2.stopped steps = other.stopped steps :=
        stopped_congr (fun i => by rw [hreadiness]) steps
      rw [hstopped] at hanswers
      exact ⟨congrArg _ hanswers, hafter⟩

/-- Interruptions are complete and leave no trace. Where its flag is raised, a configuration that does
not select a file resolves to nothing, whatever files there are and whatever the servers would answer,
and leaves cache and environment as they are; a step without a function fails, may be tried again, and
is still without one. Once the flag is lowered, everything is answered as if it had not been raised and
nothing had been asked meanwhile. -/
theorem interruption_leaves_no_trace (steps : ι → Step) (flag : StopFlag) (host : Host ι)
    (during later : List (Event ι)) (hlowered : host.environment.isRaised flag = false)
    (hwatch : ∀ e ∈ during, ∀ c, e.configuration? steps = some c →
      c.Watches flag ∧ ¬ c.SelectsFile) :
    let halted := (host.raise flag).after steps during
    let resumed := halted.lower flag
    let untouched := host.after steps (during.filter Event.isChange)
    (∀ (c : Configuration) (cache : LoaderCache) (env : Environment) (files : FileTree)
        (network : Network), c.Watches flag → ¬ c.SelectsFile → env.isRaised flag = true →
      c.resolve cache { env with files, network } =
        (.error .interrupted, cache, { env with files, network })) ∧
    (∀ (step : Step) (input : String) (context : StepContext), step.configuration.Watches flag →
        ¬ step.configuration.SelectsFile → context.environment.isRaised flag = true →
        context.readiness.isReady = false →
      step.format input context =
        (.failed .interrupted,
          { context with readiness := .failed Failure.interrupted.message })) ∧
    Failure.interrupted.isRetryable = true ∧
    (host.raise flag).answers steps during = during.map (host.stopped steps) ∧
    halted.cache = untouched.cache ∧
    halted.environment = untouched.environment.raise flag ∧
    (∀ i, (halted.readiness i).function? = (host.readiness i).function?) ∧
    resumed.answers steps later = untouched.answers steps later := by
  intro halted resumed untouched
  have hstart : (host.raise flag).Resembles (host.raise flag) := ⟨fun _ => rfl, rfl, rfl⟩
  obtain ⟨hanswers, hafter⟩ := after_raised hwatch hstart
  obtain ⟨hreadiness, hraised⟩ := after_changes steps host during
  refine ⟨?_, ?_, rfl, hanswers, hafter.cache, hafter.environment, ?_, ?_⟩
  · intro c cache env files network hc hfile henv
    have hraised : Environment.isRaised { env with files, network } flag = true := henv
    exact Configuration.resolve_interrupted hc hfile hraised cache
  · intro step input context hc hfile henv hready
    have hpending : context.readiness.function? = none := by
      simpa [Readiness.isReady] using hready
    exact Step.format_interrupted hc hfile henv hpending input
  · intro i
    rw [← hreadiness]
    exact hafter.function i
  · have hresumed : resumed.Resembles untouched := by
      refine ⟨hafter.function, hafter.cache, ?_⟩
      have huntouched : untouched.environment.isRaised flag = false := by
        rw [Environment.isRaised, hraised]
        exact hlowered
      change halted.environment.lower flag = untouched.environment
      rw [hafter.environment]
      exact (untouched.environment.raise_lower flag).trans (Environment.lower_eq_self huntouched)
    exact hresumed.answers steps later

def halt : StopFlag := ⟨"halt"⟩

def haltConfiguration : Configuration :=
  { Configuration.pairConfiguration with
    provisioner := .ofRepository .pair (some halt)
    fetcher := ⟨⟨"c"⟩, some halt⟩ }

def haltStep : Step := ⟨"step", haltConfiguration, fun _ env => (.ok fun input => .ok input, env)⟩

def haltHost : Host Unit where
  readiness _ := .pending
  cache := .ofEngines .builtins
  environment := Configuration.pairEnvironment

theorem haltConfiguration_watches :
    haltConfiguration.Watches halt ∧ ¬ haltConfiguration.SelectsFile := by
  have hdefaults : Coordinate.Template.ofList ["g:a:\x7bversion\x7d"] =
      .ok haltConfiguration.defaults := by decide +kernel
  refine ⟨Configuration.watches_after hdefaults "engine" .pair halt haltConfiguration.supported
    .standard ⟨"/tmp"⟩ ⟨"c"⟩ [], ?_⟩
  rintro ⟨url, h, -⟩
  cases h

theorem haltStep_formats :
    haltHost.answers (fun _ => haltStep) [.format () "x"] = [some (.text (.ok "x"))] := by
  have hlocate : haltConfiguration.locate Configuration.pairEnvironment =
      (.ok Configuration.pairPlaces, Configuration.pairEnvironment) := by
    have hexpand : haltConfiguration.defaults.expand haltConfiguration.version =
        .ok [Repository.firstOfPair] := Configuration.expand_pair
    rw [Configuration.locate_version rfl rfl, hexpand]
    change (Provisioner.resolveAll .pair Repository.pairFiles .empty [Repository.firstOfPair],
      Configuration.pairEnvironment) = _
    rw [Provisioner.resolveAll, Repository.pair_collects.closure_eq]
    rfl
  have hok : (haltConfiguration.resolve (.ofEngines .builtins)
      Configuration.pairEnvironment).1.isOk = true := by
    rw [Configuration.resolve, Configuration.artifacts_eq, hlocate]
    decide +kernel
  rcases hresolve : haltConfiguration.resolve (.ofEngines .builtins)
    Configuration.pairEnvironment with ⟨state, cache, env⟩
  rw [hresolve] at hok
  cases state with
  | error e => cases hok
  | ok state =>
    have hattempt : haltStep.attempt (.ofEngines .builtins) Configuration.pairEnvironment =
        (.ok fun input => .ok input, cache, env) := by
      rw [Step.attempt, show haltStep.configuration = haltConfiguration from rfl, hresolve]
      rfl
    change [some (Answer.text (haltStep.format "x"
      ⟨.pending, .ofEngines .builtins, Configuration.pairEnvironment⟩).1)] = _
    rw [Step.format, Step.prepare, hattempt]
    rfl

theorem interruption_leaves_no_trace_resumed :
    let steps := fun _ : Unit => haltStep
    let raised := haltHost.raise halt
    let calls := [Event.get haltConfiguration, Event.format () "x"]
    raised.answers steps calls =
        [some (.state (.error .interrupted)), some (.text (.failed .interrupted))] ∧
      ((raised.after steps calls).lower halt).answers steps [.format () "x"] =
        [some (.text (.ok "x"))] := by
  have hwatch : ∀ e ∈ [Event.get haltConfiguration, Event.format () "x"], ∀ c,
      e.configuration? (fun _ : Unit => haltStep) = some c →
        c.Watches halt ∧ ¬ c.SelectsFile := by
    intro e he c hc
    simp only [List.mem_cons, List.not_mem_nil, or_false] at he
    obtain rfl | rfl := he
    · cases hc
      exact haltConfiguration_watches
    · cases hc
      exact haltConfiguration_watches
  obtain ⟨-, -, -, hanswers, -, -, -, hlater⟩ := interruption_leaves_no_trace
    (fun _ : Unit => haltStep) halt haltHost [.get haltConfiguration, .format () "x"]
    [.format () "x"] rfl hwatch
  exact ⟨hanswers, hlater.trans haltStep_formats⟩

end Host

end FormatterModules
