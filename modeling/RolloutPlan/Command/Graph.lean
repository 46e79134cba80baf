import RolloutPlan.Command.Validate
import RolloutPlan.Graph.Dot
import RolloutPlan.Json.Printer

/-!
# The command that builds a graph

The graph of a service, or of the sub-trees that entrypoints select, is built, drawn if asked for, and
reported. A graph with a cycle is drawn as well before the command fails.

* `GraphRequest`: what the command is asked for.
* `GraphRequest.build`: the graph.
* `graphSummary`, `nodesText`: the two forms of a report.
* `graphCommand`: the command.
-/

namespace RolloutPlan

/-- What the command is asked for. -/
structure GraphRequest where
  topology : String
  /-- Without any, those of the topology count. -/
  entrypoints : List String := []
  /-- The graph of this service alone. -/
  service : Option String := none
  /-- The file that a drawing goes to. -/
  drawing : Option String := none
  /-- Whether the nodes are listed in place of a summary. -/
  nodes : Bool := false
deriving DecidableEq

/-- What is built from a graph, or why there is none. -/
def liftGraph {α : Type} : Except GraphError α → Except Failure α
  | .ok a => .ok a
  | .error e => .error ⟨[], .graph e⟩

namespace GraphRequest

def buildService (r : Rollout) (serviceGroup : String) : Except Failure Graph :=
  match r.topology.lookup serviceGroup with
  | .error e => .error ⟨[], .service e⟩
  | .ok s =>
    match r.pipelines.lookup serviceGroup with
    | none => .error ⟨[], .noPipeline serviceGroup⟩
    | some p => liftGraph (Graph.forPipeline s p)

/-- The entrypoints that are given, or else those of the topology. -/
def entrypointsOf (q : GraphRequest) (t : Topology) : List Entrypoint :=
  if q.entrypoints.isEmpty then t.entrypoints
  else q.entrypoints.map fun identifier => { identifier }

def build (q : GraphRequest) (r : Rollout) : Except Failure Graph :=
  match q.service with
  | some serviceGroup => buildService r serviceGroup
  | none =>
    match q.entrypointsOf r.topology with
    | [] => .error ⟨[], .noEntrypoints⟩
    | entrypoints => liftGraph (Graph.forEntrypoints r.topology entrypoints r.pipelines)

end GraphRequest

/-- The lines about resource groups that several services declare. -/
def sharedLines (coloured : Bool) (g : Graph) : List String :=
  g.resourceGroups.entries.filterMap fun (name, _) =>
    let owners := g.ownersOf name
    if owners.length > 1 then
      some ("  resource group " ++ Style.name.paint coloured name ++ " shared by " ++
        ", ".intercalate owners)
    else none

def graphSummary (coloured : Bool) (g : Graph) : String :=
  linesText
    ([Style.good.paint coloured "✓" ++ " Graph is acyclic: " ++ toString g.services.length ++
        " services, " ++ toString g.resourceGroups.length ++ " resource groups, " ++
        toString g.nodes.length ++ " steps",
      "  " ++ toString g.roots.length ++ " root steps, " ++ toString g.leaves.length ++
        " leaf steps"] ++
      (g.subscription.map fun s =>
        "  subscription provisioned by " ++ Style.place.paint coloured s.text).toList ++
      (if g.validationSteps.isEmpty then []
        else ["  " ++ toString g.validationSteps.length ++ " service validation steps"]) ++
      sharedLines coloured g)

def nodesText (nodes : List Node) : String := (Json.array (nodes.map Node.encode)).pretty

def graphReport (coloured : Bool) (q : GraphRequest) (g : Graph) : String :=
  if q.nodes then nodesText g.nodes ++ "\n" else graphSummary coloured g

/-- Draws a graph if asked to, and then goes on. A graph that cannot be drawn and a drawing that cannot be
written are failures of their own. -/
def drawThen (q : GraphRequest) (g : Graph) (next : Run) : Run :=
  match q.drawing with
  | none => next
  | some path =>
    match g.toDot with
    | .error e => .failed ⟨[], .graph e⟩
    | .ok text =>
      .write path text fun
        | .error e => .failed ⟨[.writingDrawing path], .unreadable e⟩
        | .ok () => next

/-- Builds a graph from a rollout, draws it and reports it. -/
def graphRun (coloured : Bool) (q : GraphRequest) (r : Rollout) : Run :=
  match q.build r with
  | .ok g => drawThen q g (.print (graphReport coloured q g) .succeeded)
  | .error f =>
    let next := .failed (f.within .buildingGraph)
    match f.graph? with
    | some g => drawThen q g next
    | none => next

def graphCommand (read : Reading) (coloured : Bool) (q : GraphRequest) : Run :=
  match Rollout.loadValid read q.topology with
  | .error f => .failed f
  | .ok r => graphRun coloured q r

end RolloutPlan
