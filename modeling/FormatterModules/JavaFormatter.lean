import FormatterModules.Step

namespace FormatterModules.JavaFormatter

def name : String := "java formatter"

def formatterClass : String := "dev.fmtmod.java.JavaFormatterImpl"

def formatterMethod : String := "format"

def versions : List String := ["4.6.1", "4.6.3", "4.7.0", "4.7.1", "4.7.2"]

def coordinatePatterns : List String :=
  ["dev.fmtmod:java-formatter:" ++ Coordinate.Template.placeholder]

/-- The configuration for the latest version, without preferences. -/
def configuration (provisioner : Provisioner) (temporaryDirectory : Path) :
    Except Failure Configuration :=
  match SupportedVersions.ofList versions with
  | .error e => .error e
  | .ok supported =>
    (Coordinate.Template.ofList coordinatePatterns).map fun defaults =>
      .new name provisioner supported defaults temporaryDirectory

/-- Formats with an engine and reports what the engine refuses. -/
def formatWith (engine : Engine) : FormatFunction := fun input =>
  match engine input with
  | .ok output => .ok output
  | .failed e => .failed (.formatting name input e.message)
  | .panicked => .panicked

def bind (state : EngineState) : Except Failure FormatFunction :=
  match state.lookup formatterClass with
  | .error e => .error e
  | .ok c =>
    match c.checkMethod formatterMethod with
    | .error e => .error e
    | .ok () => (c.instantiate state.preferences).map formatWith

def factory : FunctionFactory := fun state env =>
  match bind state with
  | .ok f => (.ok f, env)
  | .error e => (.failed e, env)

def step (configuration : Configuration) : Step := ⟨name, configuration, factory⟩

end FormatterModules.JavaFormatter
