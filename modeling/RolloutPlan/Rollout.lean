import RolloutPlan.Failure
import RolloutPlan.Graph.Assembly
import RolloutPlan.Pipeline.Format
import RolloutPlan.Topology.Format

/-!
# Loading a rollout

A rollout is a topology with the pipelines that its services point at. The paths of the pipelines are
relative to the topology. A service without a path has no pipeline, which matters only when a graph
needs it.

* `Topology.ofText`, `Pipeline.ofText`: reading a topology, and reading and validating a pipeline.
* `Rollout.pathOf`, `Rollout.pipelinePaths`: where the pipelines of a topology are.
* `Rollout`, `Rollout.load`: a topology and its pipelines, which are loaded along the forest.
* `Rollout.missing`, `Rollout.servicesWithoutPipeline`: the services that have none.
-/

namespace RolloutPlan

def Topology.ofText (text : String) : Except Failure Topology :=
  match Topology.read? text with
  | some t => .ok t
  | none => .error ⟨[.topologyText], .undecodable .yaml⟩

def Pipeline.ofText (text : String) : Except Failure Pipeline :=
  match Pipeline.read? text with
  | none => .error ⟨[.pipelineText], .undecodable .yaml⟩
  | some p =>
    match p.validate with
    | .ok () => .ok p
    | .error e => .error ⟨[.pipelineValidation], .pipeline e⟩

def Topology.load (read : Reading) (path : String) : Except Failure Topology :=
  match read path with
  | .error e => .error ⟨[.readingTopology path], .unreadable e⟩
  | .ok text => Except.within (.parsingTopology path) (Topology.ofText text)

def Pipeline.load (read : Reading) (path : String) : Except Failure Pipeline :=
  match read path with
  | .error e => .error ⟨[.readingPipeline path], .unreadable e⟩
  | .ok text => Except.within (.loadingPipeline path) (Pipeline.ofText text)

/-- A topology with the pipelines of its services. -/
structure Rollout where
  topology : Topology
  pipelines : Pipelines

namespace Rollout

/-- The path of a pipeline that a topology points at. -/
def pathOf (topologyPath relative : String) : String :=
  Path.join (Path.parent topologyPath) relative

/-- The group of a service with the path of its pipeline, if it points at one. -/
def ownPath? (topologyPath : String) (s : Service) : Option (String × String) :=
  s.pipelinePath.map fun relative => (s.serviceGroup, pathOf topologyPath relative)

/-- The services that point at a pipeline, with the path of the pipeline, in the order of the
topology. -/
def pipelinePaths (topologyPath : String) (t : Topology) : List (String × String) :=
  t.preorder.filterMap (ownPath? topologyPath)

/-- Loads what a service points at, if it points at a pipeline. -/
def loadOwn (read : Reading) (topologyPath group : String) (known : Pipelines) :
    Option String → Except Failure Pipelines
  | none => .ok known
  | some relative => do
    let p ← Except.within (.loadingPipelineOf group)
      (Pipeline.load read (pathOf topologyPath relative))
    return Sorted.put group p known

mutual
/-- Loads the pipelines of a sub-tree, that of a service before those under it. Of several for a service
group the last one counts. -/
def loadUnder (read : Reading) (topologyPath : String) (known : Pipelines) :
    Service → Except Failure Pipelines
  | ⟨group, _, path, children, _⟩ => do
    let known ← loadOwn read topologyPath group known path
    loadAll read topologyPath known children
def loadAll (read : Reading) (topologyPath : String) (known : Pipelines) :
    List Service → Except Failure Pipelines
  | [] => .ok known
  | s :: l => do
    let known ← loadUnder read topologyPath known s
    loadAll read topologyPath known l
end

def load (read : Reading) (path : String) : Except Failure Rollout := do
  let topology ← Topology.load read path
  let pipelines ← loadAll read path ∅ topology.services
  return ⟨topology, pipelines⟩

/-- The groups without a pipeline among services and all those under them. The services are a stack:
those under the one on top are put on top of the others, the last of them first. -/
def missing (pipelines : Pipelines) : List Service → List String
  | [] => []
  | s :: stack =>
    let rest := missing pipelines (s.children.reverse ++ stack)
    if (pipelines.lookup s.serviceGroup).isSome then rest else s.serviceGroup :: rest
termination_by stack => (Service.preorderAll stack).length
decreasing_by
  have hreversed := (Service.preorderAll_reverse_perm s.children).length_eq
  simp only [List.unattach_reverse, List.unattach_attach]
  rw [Service.preorderAll_append, Service.preorderAll, Service.preorder_eq_cons, List.length_append,
    List.length_append, List.length_cons]
  omega

def servicesWithoutPipeline (r : Rollout) : List String :=
  Sorted.sort (missing r.pipelines r.topology.services.reverse)

end Rollout

end RolloutPlan
