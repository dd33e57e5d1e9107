import FormatterModules.Configuration

namespace FormatterModules

abbrev FormatFunction := String → Attempt String

abbrev FunctionFactory := EngineState → Environment → Attempt FormatFunction × Environment

/-- What a step has come to when no attempt is under way. -/
inductive Readiness
  | pending
  | ready (f : FormatFunction)
  | failed (reason : String)

namespace Readiness

def ofAttempt : Attempt FormatFunction → Readiness
  | .ok f => ready f
  | .failed e => failed e.message
  | .panicked => failed "materialization panicked"

def function? : Readiness → Option FormatFunction
  | ready f => some f
  | _ => none

def isReady (r : Readiness) : Bool := r.function?.isSome

def lastFailure? : Readiness → Option String
  | failed reason => some reason
  | _ => none

def inspect : Readiness → String
  | pending => "Unmaterialized"
  | ready _ => "Ready"
  | failed reason => "FailedRetryable(" ++ reason ++ ")"

end Readiness

/-- A step: its name, what it is resolved from, and how the result is bound. -/
structure Step where
  name : String
  configuration : Configuration
  factory : FunctionFactory

/-- What a step works on: what it has come to, the cache of loaders, and the environment. -/
structure StepContext where
  readiness : Readiness
  cache : LoaderCache
  environment : Environment

namespace Step

def attempt (step : Step) (cache : LoaderCache) (env : Environment) :
    Attempt FormatFunction × LoaderCache × Environment :=
  match step.configuration.resolve cache env with
  | (.error e, cache, env) => (.failed e, cache, env)
  | (.ok state, cache, env) =>
    let (outcome, env) := step.factory state env
    (outcome, cache, env)

def prepare (step : Step) (context : StepContext) : Attempt FormatFunction × StepContext :=
  match context.readiness.function? with
  | some f => (.ok f, context)
  | none =>
    let (outcome, cache, env) := step.attempt context.cache context.environment
    (outcome, ⟨.ofAttempt outcome, cache, env⟩)

def report (step : Step) (input : String) : Failure → Failure
  | .formatting name text diagnostic => .formatting name text diagnostic
  | other => .formatting step.name input other.message

def apply (step : Step) (f : FormatFunction) (input : String) : Attempt String :=
  match f input with
  | .ok output => .ok output
  | .failed e => .failed (step.report input e)
  | .panicked => .panicked

def conclude (step : Step) (input : String) : Attempt FormatFunction → Attempt String
  | .ok f => step.apply f input
  | .failed e => .failed e
  | .panicked => .panicked

def format (step : Step) (input : String) (context : StepContext) :
    Attempt String × StepContext :=
  let (outcome, context) := step.prepare context
  (step.conclude input outcome, context)

def currentFingerprint (step : Step) (context : StepContext) : Except Failure String × StepContext :=
  let (state, cache, env) := step.configuration.resolve context.cache context.environment
  (state.map EngineState.fingerprint, { context with cache, environment := env })

def formatInPlace (step : Step) (path : Path) (context : StepContext) : Attempt Bool × StepContext :=
  match context.environment.files.readText path with
  | .error e => (.failed (.io e), context)
  | .ok text =>
    match step.format text context with
    | (.failed e, context) => (.failed e, context)
    | (.panicked, context) => (.panicked, context)
    | (.ok formatted, context) =>
      if formatted = text then (.ok false, context)
      else
        match context.environment.files.write path (Bytes.ofText formatted) with
        | .error e => (.failed (.io e), context)
        | .ok files =>
          (.ok true, { context with environment := { context.environment with files } })

def inspect (step : Step) (m : Readiness) : String :=
  Text.record "FormatterStep" [("name", Text.quoted step.name), ("state", m.inspect)]

end Step

end FormatterModules
