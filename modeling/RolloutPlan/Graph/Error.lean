import RolloutPlan.Graph.Basic
import RolloutPlan.Graph.TargetDifference
import RolloutPlan.Topology.Validation

/-!
# Why a graph cannot be built or drawn

* `GraphError`: the causes. A cycle comes with the graph that has it.
* `GraphError.message`: their texts.
* `GraphError.graph?`: the graph that has a cycle.
-/

namespace RolloutPlan

/-- Why a graph cannot be built or drawn. -/
inductive GraphError where
  /-- The same service was reached twice. -/
  | duplicateService (serviceGroup : String)
  | duplicateResourceGroup (serviceGroup resourceGroup : String)
  | duplicateStep (serviceGroup : String) (step : StepReference)
  | unknownPipeline (serviceGroup : String)
  /-- The pipeline of a service declares another service group. -/
  | otherServiceGroup (serviceGroup declared : String)
  | unknownDependency (serviceGroup : String) (step dependency : StepReference)
  | severalSubscriptions (serviceGroup : String)
  /-- A service does not agree with those before it on a resource group. -/
  | conflictingTargets (owners : List String) (newOwner : String)
      (recorded incoming : ResourceGroupTarget)
  | duplicateSubscription (recorded incoming : Subscription)
  | unknownEntrypoint (entrypoint : String) (cause : UnknownService)
  /-- Steps wait for each other. The last step of the path stands in it before. -/
  | cycle (path : List Identifier) (graph : Graph)
  | missingNode (identifier : Identifier)
  | shortServiceGroup (serviceGroup : String)

namespace GraphError

def message : GraphError → String
  | .duplicateService serviceGroup => "service group " ++ serviceGroup ++ " already recorded"
  | .duplicateResourceGroup serviceGroup resourceGroup =>
    "resource group " ++ resourceGroup ++ " declared more than once in pipeline " ++ serviceGroup
  | .duplicateStep serviceGroup step =>
    "step " ++ step.text ++ " declared more than once in pipeline " ++ serviceGroup
  | .unknownPipeline serviceGroup => "pipeline for service " ++ serviceGroup ++ " not found"
  | .otherServiceGroup serviceGroup declared =>
    "pipeline registered for service " ++ serviceGroup ++ " declares service group " ++ declared
  | .unknownDependency serviceGroup step dependency =>
    "step " ++ step.text ++ " in pipeline " ++ serviceGroup ++ " depends on unknown step " ++
      dependency.text
  | .severalSubscriptions serviceGroup =>
    "multiple subscriptions found for pipeline " ++ serviceGroup
  | .conflictingTargets owners newOwner recorded incoming =>
    "resource group " ++ incoming.name ++
      " already recorded with different step meta (existing services: " ++
      ", ".intercalate owners ++ ", new service: " ++ newOwner ++ "), diff:\n" ++
      recorded.comparison incoming
  | .duplicateSubscription recorded incoming =>
    "subscription provisioning already recorded for " ++ recorded.text ++
      ", cannot add another for " ++ incoming.text
  | .unknownEntrypoint entrypoint cause =>
    "failed to lookup entrypoint " ++ entrypoint ++ ": " ++ cause.message
  | .cycle path _ =>
    "cycle detected: " ++ " -> ".intercalate (path.map fun i => i.reference.text)
  | .missingNode identifier =>
    "could not find node " ++ identifier.text ++ " - programmer error"
  | .shortServiceGroup serviceGroup =>
    "invalid service group: " ++ Text.quote serviceGroup ++
      " (expected at least 5 dot-separated parts, e.g. \"a.b.c.d.e\")"

/-- The graph that has a cycle. -/
def graph? : GraphError → Option Graph
  | .cycle _ graph => some graph
  | _ => none

end GraphError

end RolloutPlan
