import RolloutPlan.Failure
import RolloutPlan.Toml.Assignment

/-!
# Settings

What the command line leaves open is looked up in a settings file. Every key is optional, and what
the command line says counts before it.

* `Settings`, `Settings.ofText`, `Settings.load`: the settings of a file; without a file, none.
* `Settings.topologyPath`, `Settings.entrypointsOr`, `Settings.drawingPath`: the choices that are
  made together with the command line.
-/

namespace RolloutPlan

/-- What a settings file says. -/
structure Settings where
  topology : Option String := none
  entrypoints : List String := []
  dotOutput : Option String := none
  logFilter : Option String := none
deriving DecidableEq

namespace Settings

def defaultPath : String := "rollgraph.toml"

/-- Adds one assignment. Other keys, and values of another kind, are refused. -/
def assign (s : Settings) : Toml.Assignment → Option Settings
  | ("topology", .text path) => some { s with topology := some path }
  | ("entrypoints", .texts entrypoints) => some { s with entrypoints }
  | ("dot_output", .text path) => some { s with dotOutput := some path }
  | ("log_filter", .text filter) => some { s with logFilter := some filter }
  | _ => none

def read? (text : String) : Option Settings := do
  (← Toml.Assignment.read? text).foldlM assign {}

def ofText (text : String) : Except Failure Settings :=
  match read? text with
  | some s => .ok s
  | none => .error ⟨[.settingsText], .undecodable .toml⟩

def load (read : Reading) (path : String) : Except Failure Settings :=
  match read path with
  | .ok text => Except.within (.parsingSettings path) (ofText text)
  | .error e =>
    if e.isPresent then .error ⟨[.readingSettings path], .unreadable e⟩ else .ok {}

def topologyPath (s : Settings) (given : Option String) : Except Failure String :=
  match given.or s.topology with
  | some path => .ok path
  | none => .error ⟨[], .noTopology⟩

def entrypointsOr (s : Settings) (given : List String) : List String :=
  if given.isEmpty then s.entrypoints else given

def drawingPath (s : Settings) (given : Option String) : Option String := given.or s.dotOutput

end Settings

end RolloutPlan
