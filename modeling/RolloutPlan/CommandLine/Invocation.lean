import RolloutPlan.Command.Graph
import RolloutPlan.CommandLine.Flag
import RolloutPlan.Settings

/-!
# Invocations

A command line names a command with its flags, and flags that all commands have. What it leaves open
is taken from a settings file.

* `Invocation`: what a command line asks for.
* `Invocation.ofArguments`: reading a command line.
* `Invocation.run`: what is asked for, among files.
* `Invocation.paths`: the files that are read.
-/

namespace RolloutPlan

open CommandLine (Flag FlagKind Given Interruption)

/-- A command with its flags. -/
inductive Command where
  | validate (topology : Option String)
  | graph (topology : Option String) (entrypoints : List String) (service : Option String)
      (drawing : Option String) (nodes : Bool)
deriving DecidableEq

/-- What a command line asks for. -/
structure Invocation where
  settings : String := Settings.defaultPath
  /-- How often it asks to say more. -/
  verbosity : Nat := 0
  command : Command
deriving DecidableEq

namespace Invocation

/-! ## Flags -/

def settingsFlag : Flag := { long := "config", kind := .path }

def verboseFlag : Flag :=
  { long := "verbose", short := some 'v', kind := .switch, repeatable := true }

def helpFlag : Flag := { long := "help", short := some 'h', kind := .help }

def versionFlag : Flag := { long := "version", short := some 'V', kind := .version }

def topologyFlag : Flag := { long := "topology", short := some 't', kind := .path }

def entrypointFlag : Flag :=
  { long := "entrypoint", short := some 'e', kind := .text, repeatable := true }

def serviceFlag : Flag := { long := "service", short := some 's', kind := .text }

def drawingFlag : Flag := { long := "dot", kind := .path }

def nodesFlag : Flag := { long := "json", kind := .switch }

def commonFlags : List Flag := [settingsFlag, verboseFlag, helpFlag]

def validateFlags : List Flag := topologyFlag :: commonFlags

def graphFlags : List Flag :=
  [topologyFlag, entrypointFlag, serviceFlag, drawingFlag, nodesFlag] ++ commonFlags

/-! ## Reading a command line -/

def values (f : Flag) (given : List Given) : List String :=
  (given.filter (·.flag = f)).map (·.value)

/-- The text that follows a flag that is given once. -/
def value? (f : Flag) (given : List Given) : Option String := (values f given).head?

/-- How often a flag is given; flags after the command count before those in front of it. -/
def countOf (f : Flag) (front given : List Given) : Nat :=
  if values f given = [] then (values f front).length else (values f given).length

def validateOf (given : List Given) : Except Interruption Command :=
  .ok (.validate (value? topologyFlag given))

def graphOf (given : List Given) : Except Interruption Command :=
  let entrypoints := values entrypointFlag given
  let service := value? serviceFlag given
  if service.isSome && !entrypoints.isEmpty then .error .misuse
  else
    .ok (.graph (value? topologyFlag given) entrypoints service (value? drawingFlag given)
      (given.any (·.flag = nodesFlag)))

/-- An invocation from the flags before and after the name of its command. -/
def ofFlags (front : List Given) (flags : List Flag) (rest : List String)
    (read : List Given → Except Interruption Command) : Except Interruption Invocation := do
  let given := (← Flag.readAll flags [] [] rest).given
  return {
    settings := ((value? settingsFlag given).or (value? settingsFlag front)).getD
      Settings.defaultPath
    verbosity := countOf verboseFlag front given
    command := ← read given }

/-- Whether help can be asked for with these words. -/
def isHelpTopic : List String → Bool
  | [] => true
  | [topic] => ["validate", "graph", "help"].contains topic
  | _ => false

def ofArguments (arguments : List String) : Except Interruption Invocation := do
  let front ← Flag.readAll (versionFlag :: commonFlags) ["validate", "graph", "help"] [] arguments
  match front.rest with
  | "validate" :: rest => ofFlags front.given validateFlags rest validateOf
  | "graph" :: rest => ofFlags front.given graphFlags rest graphOf
  | "help" :: rest => .error (if isHelpTopic rest then .help else .misuse)
  | _ => .error .misuse

/-! ## Running -/

/-- The path of the topology, from the command line or from the settings. -/
def topologyPath (i : Invocation) (s : Settings) : Except Failure String :=
  match i.command with
  | .validate topology => s.topologyPath topology
  | .graph topology .. => s.topologyPath topology

/-- The command with what the settings add to it. -/
def runWith (read : Reading) (coloured : Bool) (i : Invocation) (s : Settings) (path : String) :
    Run :=
  match i.command with
  | .validate _ => validateCommand read coloured path
  | .graph _ entrypoints service drawing nodes =>
    graphCommand read coloured {
      topology := path
      entrypoints := s.entrypointsOr entrypoints
      service
      drawing := s.drawingPath drawing
      nodes }

def run (read : Reading) (coloured : Bool) (i : Invocation) : Run :=
  match Settings.load read i.settings with
  | .error f => .failed f
  | .ok s =>
    match i.topologyPath s with
    | .error f => .failed f
    | .ok path => runWith read coloured i s path

def paths (read : Reading) (i : Invocation) : List String :=
  i.settings ::
    match (Settings.load read i.settings).bind i.topologyPath with
    | .error _ => []
    | .ok path =>
      path ::
        match Topology.load read path with
        | .error _ => []
        | .ok t => (Rollout.pipelinePaths path t).map (·.2)

end Invocation

/-! ## Whole programs -/

def versionText : String := "rollgraph 0.1.0\n"

/-- What a program leaves behind. -/
structure Ending where
  exitCode : Nat
  output : String
  failure : Option Failure
  files : Files

/-- A program among files. What it says about its use is not part of its ending. -/
def runProgram (files : Files) (arguments : List String) : Ending :=
  match Invocation.ofArguments arguments with
  | .error .misuse => ⟨2, "", none, files⟩
  | .error .help => ⟨0, "", none, files⟩
  | .error .version => ⟨0, versionText, none, files⟩
  | .ok i =>
    let o := (i.run files.read false).perform files
    match o.result with
    | .ok () => ⟨0, o.output, none, o.files⟩
    | .error f => ⟨1, o.output, some f, o.files⟩

end RolloutPlan
