import FormatterModules.Configuration

namespace FormatterModules

inductive Choice
  | version (requested : String)
  | dependency (text? : Option String)
  | preferenceFiles (files : List Path)

namespace Configuration

abbrev Edit := ExceptT Failure (StateM Configuration)

def adopt : Selection → Edit Unit
  | .version v => do
    modify fun c => { c with version := v }
    modify fun c => { c with moduleUrl? := none }
  | .moduleUrl url => modify fun c => { c with moduleUrl? := some url }

def setVersion (requested : String) : Edit Unit := do
  adopt (← Selection.resolve (some requested) (← get).supported)

def setDependency (text? : Option String) : Edit Unit := do
  let dependency? ← (text?.mapM Coordinate.parse : Except Failure (Option Coordinate))
  modify fun c => { c with dependency? }

def setPreferenceFiles (files : List Path) : Edit Unit :=
  modify fun c => { c with preferenceFiles := files }

def set : Choice → Edit Unit
  | .version requested => setVersion requested
  | .dependency text? => setDependency text?
  | .preferenceFiles files => setPreferenceFiles files

def perform (c : Configuration) (choice : Choice) : Except Failure Unit × Configuration :=
  (set choice).run.run c

/-- The configuration after choices that are made one after another, valid or not. -/
def after (c : Configuration) (choices : List Choice) : Configuration :=
  choices.foldl (fun c choice => (c.perform choice).2) c

/-- The choices that are not refused, each made after all that stand before it. -/
def accepted (c : Configuration) : List Choice → List Choice
  | [] => []
  | choice :: rest =>
    match c.perform choice with
    | (.ok _, next) => choice :: accepted next rest
    | (.error _, next) => accepted next rest

end Configuration

end FormatterModules
