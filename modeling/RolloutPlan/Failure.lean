import RolloutPlan.Files.Basic
import RolloutPlan.Graph.Error
import RolloutPlan.Pipeline.Validation

/-!
# Failures

A failure has a cause and says, from the outside in, what was being done.

* `Cause`, `Context`, `Failure`.
* `Failure.messages`: the texts of the contexts and then those of the cause.
* `Failure.graph?`: the graph whose cycle is the cause.
-/

namespace RolloutPlan

/-- The formats of the files that are read. -/
inductive DocumentFormat where
  | yaml
  | toml
deriving DecidableEq

/-- Why a command fails. -/
inductive Cause where
  | unreadable (error : IoError)
  | undecodable (format : DocumentFormat)
  | topology (error : InvalidTopology)
  | pipeline (error : PipelineError)
  | service (error : UnknownService)
  | graph (error : GraphError)
  | noTopology
  | noEntrypoints
  | noPipeline (serviceGroup : String)

/-- What was being done. -/
inductive Context where
  | readingTopology (path : String)
  | parsingTopology (path : String)
  | topologyText
  | loadingPipelineOf (serviceGroup : String)
  | readingPipeline (path : String)
  | loadingPipeline (path : String)
  | pipelineText
  | pipelineValidation
  | readingSettings (path : String)
  | parsingSettings (path : String)
  | settingsText
  | checkingTopology (path : String)
  | buildingGraph
  | writingDrawing (path : String)
deriving DecidableEq

/-- Why something failed, and what was being done, outermost first. -/
structure Failure where
  contexts : List Context := []
  cause : Cause

namespace Cause

def messages : Cause → List String
  | .unreadable error => [error.message]
  | .undecodable .yaml => ["not a YAML document of the expected form"]
  | .undecodable .toml => ["not a TOML document of the expected form"]
  | .topology error => [error.message]
  | .pipeline error => [error.message]
  | .service error => [error.message]
  | .graph (.unknownEntrypoint entrypoint cause) =>
    [GraphError.message (.unknownEntrypoint entrypoint cause), cause.message]
  | .graph error => [error.message]
  | .noTopology => ["No topology given: pass --topology or set \x60topology\x60 in rollgraph.toml"]
  | .noEntrypoints =>
    ["No entrypoints: pass --entrypoint, --service, or declare entrypoints in the topology"]
  | .noPipeline serviceGroup => ["Service " ++ serviceGroup ++ " has no pipeline"]

end Cause

namespace Context

def message : Context → String
  | .readingTopology path => "Failed to read topology file: " ++ path
  | .parsingTopology path => "Failed to parse topology file: " ++ path
  | .topologyText => "Failed to parse topology YAML"
  | .loadingPipelineOf serviceGroup => "Failed to load pipeline for service " ++ serviceGroup
  | .readingPipeline path => "Failed to read pipeline file: " ++ path
  | .loadingPipeline path => "Failed to load pipeline file: " ++ path
  | .pipelineText => "Failed to parse pipeline YAML"
  | .pipelineValidation => "Pipeline file failed validation"
  | .readingSettings path => "Failed to read config file: " ++ path
  | .parsingSettings path => "Failed to parse config file: " ++ path
  | .settingsText => "Failed to parse config TOML"
  | .checkingTopology path => "Invalid topology: " ++ path
  | .buildingGraph => "Failed to build graph"
  | .writingDrawing path => "Failed to write DOT file: " ++ path

end Context

namespace Failure

def messages (f : Failure) : List String :=
  f.contexts.map Context.message ++ f.cause.messages

def graph? (f : Failure) : Option Graph :=
  match f.cause with
  | .graph e => e.graph?
  | _ => none

def within (f : Failure) (c : Context) : Failure := { f with contexts := c :: f.contexts }

end Failure

def Except.within {α : Type} (c : Context) : Except Failure α → Except Failure α
  | .ok a => .ok a
  | .error f => .error (f.within c)

end RolloutPlan
