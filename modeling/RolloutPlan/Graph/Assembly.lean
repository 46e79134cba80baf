import Std.Data.HashMap
import RolloutPlan.Graph.Contribution
import RolloutPlan.Graph.Cycle

/-!
# Assembling a graph

The contributions of the services are put together along the service tree. Before the services under
a service are visited, every step recorded so far that nothing comes after is remembered, and these
steps come before every step of a visited service that nothing comes before.

* `Pipelines`: the pipelines of a rollout.
* `Assembly`: a graph under construction, with the places of its nodes.
* `Assembly.addService`: adds a service and all under it.
* `Graph.forPipeline`, `Graph.forEntrypoint`, `Graph.forEntrypoints`: whole graphs without cycles.
-/

namespace RolloutPlan

/-- The pipelines of a rollout by the services they belong to. -/
abbrev Pipelines := SortedMap String Pipeline

/-- The pipeline of one service. -/
def Pipelines.single (serviceGroup : String) (p : Pipeline) : Pipelines :=
  Sorted.put serviceGroup p ∅

@[simp] theorem Pipelines.lookup_single (serviceGroup : String) (p : Pipeline) :
    (single serviceGroup p).lookup serviceGroup = some p := by
  simp [single, Sorted.put, Sorted.putEntry, SortedMap.lookup]

/-- A graph under construction. -/
structure Assembly where
  graph : Graph := {}
  /-- The place of every node. -/
  index : Std.HashMap Identifier Nat := ∅

namespace Assembly

def push (a : Assembly) (n : Node) : Assembly where
  graph := { a.graph with nodes := a.graph.nodes ++ [n] }
  index := a.index.insert n.identifier a.graph.nodes.length

@[simp] theorem graph_push (a : Assembly) (n : Node) :
    (a.push n).graph = { a.graph with nodes := a.graph.nodes ++ [n] } := rfl

@[simp] theorem index_push (a : Assembly) (n : Node) :
    (a.push n).index = a.index.insert n.identifier a.graph.nodes.length := rfl

def modify (a : Assembly) (i : Identifier) (f : Node → Node) : Except GraphError Assembly :=
  match a.index[i]? with
  | some place => .ok { a with graph := { a.graph with nodes := a.graph.nodes.modify place f } }
  | none => .error (.missingNode i)

def modifyAll (f : Node → Node) : Assembly → List Identifier → Except GraphError Assembly
  | a, [] => .ok a
  | a, i :: l => do modifyAll f (← a.modify i f) l

/-- The steps of a service that nothing comes before yet. -/
def rootsOf (a : Assembly) (serviceGroup : String) : List Identifier :=
  (a.graph.nodes.filter fun n => n.identifier.serviceGroup = serviceGroup && n.isRoot).map
    Node.identifier

/-- Every leaf comes before every root. -/
def link (a : Assembly) (leaves roots : List Identifier) : Except GraphError Assembly :=
  if roots.isEmpty then .ok a
  else do
    let a ← modifyAll (fun n => { n with parents := n.parents ++ leaves }) a roots
    modifyAll (fun n => { n with children := n.children ++ roots }) a leaves

/-- Records that a service declares a resource group. It has to agree with those before it. -/
def addTarget (serviceGroup : String) (g : Graph) (name : String) (target : ResourceGroupTarget) :
    Except GraphError Graph :=
  let owners := Sorted.put name (Sorted.insert serviceGroup (g.ownersOf name)) g.owners
  match g.resourceGroups.lookup name with
  | none => .ok { g with owners, resourceGroups := Sorted.put name target g.resourceGroups }
  | some recorded =>
    if recorded.agrees target then .ok { g with owners }
    else .error (.conflictingTargets (g.ownersOf name) serviceGroup recorded target)

def addTargets (serviceGroup : String) :
    Graph → List (String × ResourceGroupTarget) → Except GraphError Graph
  | g, [] => .ok g
  | g, (name, target) :: l => do addTargets serviceGroup (← addTarget serviceGroup g name target) l

/-- Records a request for a subscription, of which there may be one. -/
def addSubscription (g : Graph) (s : Option Subscription) : Except GraphError Graph :=
  match g.subscription, s with
  | _, none => .ok g
  | some recorded, some incoming => .error (.duplicateSubscription recorded incoming)
  | none, some incoming => .ok { g with subscription := some incoming }

def addContribution (a : Assembly) (serviceGroup : String) (c : Contribution) :
    Except GraphError Assembly := do
  let d := c.inventory
  let g ← addTargets serviceGroup a.graph d.resourceGroups.entries
  let g ← addSubscription g d.subscription
  let g := { g with
    steps := Sorted.put serviceGroup d.steps g.steps
    validationSteps :=
      d.validationSteps.entries.foldl (fun m e => Sorted.put e.1 e.2 m) g.validationSteps }
  return c.nodes.foldl push { a with graph := g }

def pipelineOf (pipelines : Pipelines) (serviceGroup : String) : Except GraphError Pipeline :=
  match pipelines.lookup serviceGroup with
  | none => .error (.unknownPipeline serviceGroup)
  | some p =>
    if p.serviceGroup = serviceGroup then .ok p
    else .error (.otherServiceGroup serviceGroup p.serviceGroup)

def record (pipelines : Pipelines) (a : Assembly) (s : Service) : Except GraphError Assembly := do
  if (a.graph.services.lookup s.serviceGroup).isSome then
    throw (.duplicateService s.serviceGroup)
  let p ← pipelineOf pipelines s.serviceGroup
  let c ← p.contribution
  let services := Sorted.put s.serviceGroup s a.graph.services
  addContribution { a with graph := { a.graph with services } } s.serviceGroup c

mutual
def addService (pipelines : Pipelines) (a : Assembly) : Service → Except GraphError Assembly
  | ⟨group, purpose, path, children, metadata⟩ => do
    let a ← a.record pipelines ⟨group, purpose, path, children, metadata⟩
    addChildren pipelines a.graph.leaves a children
/-- Adds services that come after some steps. All of them hang off the same steps, not off each
other. -/
def addChildren (pipelines : Pipelines) (leaves : List Identifier) (a : Assembly) :
    List Service → Except GraphError Assembly
  | [] => .ok a
  | s :: l => do
    let a ← addService pipelines a s
    let a ← a.link leaves (a.rootsOf s.serviceGroup)
    addChildren pipelines leaves a l
end

def addEntrypoints (pipelines : Pipelines) (t : Topology) :
    Assembly → List Entrypoint → Except GraphError Assembly
  | a, [] => .ok a
  | a, e :: l =>
    match t.lookup e.identifier with
    | .error cause => .error (.unknownEntrypoint e.identifier cause)
    | .ok s => do addEntrypoints pipelines t (← a.addService pipelines s) l

end Assembly

namespace Graph

def checked (g : Graph) : Except GraphError Graph :=
  match findObstacle? g.nodes with
  | none => .ok g
  | some (.cycle path) => .error (.cycle path g)
  | some (.missing i) => .error (.missingNode i)

def forPipeline (s : Service) (p : Pipeline) : Except GraphError Graph := do
  let a ← Assembly.addService (.single s.serviceGroup p) {} s.withoutChildren
  a.graph.checked

/-- The graph of the sub-trees that entrypoints select one after the other. No service may be in two
of them. -/
def forEntrypoints (t : Topology) (entrypoints : List Entrypoint) (pipelines : Pipelines) :
    Except GraphError Graph := do
  let a ← Assembly.addEntrypoints pipelines t {} entrypoints
  a.graph.checked

def forEntrypoint (t : Topology) (e : Entrypoint) (pipelines : Pipelines) :
    Except GraphError Graph :=
  forEntrypoints t [e] pipelines

end Graph

end RolloutPlan
