import FormatterModules.Artifact.Set
import FormatterModules.Coordinate.Template
import FormatterModules.Fetcher
import FormatterModules.Provisioner

namespace FormatterModules

namespace Selection

def describe (selection : Selection) (override? : Option Coordinate) : String :=
  match selection, override? with
  | moduleUrl url, _ => url.href
  | version _, some c => c.render
  | version v, none => v.render

def locate (selection : Selection) (override? : Option Coordinate)
    (defaults : Coordinate.Template) (provisioner : Provisioner) (fetcher : Fetcher)
    (env : Environment) : Except Failure (OrderedSet Path) × Environment :=
  match selection, override? with
  | moduleUrl url, _ =>
    let (location, env) := fetcher.fetch url env
    (location.map OrderedSet.singleton, env)
  | version _, some c => provisioner.provision (.singleton c) env
  | version v, none =>
    match defaults.expand v with
    | .error e => (.error e, env)
    | .ok coordinates => provisioner.provision (.ofList coordinates) env

/-- Reads the artifacts behind a selection. There has to be at least one. -/
def artifacts (selection : Selection) (override? : Option Coordinate)
    (defaults : Coordinate.Template) (provisioner : Provisioner) (fetcher : Fetcher)
    (env : Environment) : Except Failure ArtifactSet × Environment :=
  match selection.locate override? defaults provisioner fetcher env with
  | (.error e, env) => (.error e, env)
  | (.ok locations, env) =>
    if locations.isEmpty then
      (.error (.resolution (selection.describe override?) "no artifacts were provisioned"), env)
    else (ArtifactSet.ofLocations env.files locations, env)

end Selection

end FormatterModules
