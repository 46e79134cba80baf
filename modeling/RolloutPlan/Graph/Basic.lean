import RolloutPlan.Graph.Node
import RolloutPlan.Pipeline.Basic
import RolloutPlan.Topology.Basic

/-!
# Rollout graphs

The graph of a rollout has a node for every step of the services that were put into it, and keeps
what was declared about them.

* `Subscription`: the one request for a subscription, with the place where it was made.
* `StepRegistry`: the steps of a service under their resource groups.
* `Graph`, and its look-ups `Graph.node?`, `Graph.step?` and `Graph.ownersOf`.
* `Graph.roots`, `Graph.leaves`: where a rollout can begin and where it ends.
-/

namespace RolloutPlan

/-- A request for a subscription, with the resource group that makes it. -/
structure Subscription where
  serviceGroup : String
  resourceGroup : String
  config : SubscriptionProvisioning

def Subscription.text (s : Subscription) : String := s.serviceGroup ++ "/" ++ s.resourceGroup

/-- The steps of a service by resource group and name. -/
structure StepRegistry where
  groups : SortedMap String (SortedMap String Step) := ∅

namespace StepRegistry

def find? (d : StepRegistry) (r : StepReference) : Option Step := do
  (← d.groups.lookup r.resourceGroup).lookup r.step

/-- Lists what the resource groups give with their steps. -/
def flatMap {α : Type} (f : String × List (String × Step) → List α) (d : StepRegistry) : List α :=
  d.groups.flatMap fun (resourceGroup, steps) => f (resourceGroup, steps.entries)

end StepRegistry

/-- The steps of a rollout in their order, and what was declared about them. -/
structure Graph where
  /-- The services whose steps are in the graph. -/
  services : SortedMap String Service := ∅
  /-- Where the resource groups deploy to. -/
  resourceGroups : SortedMap String ResourceGroupTarget := ∅
  /-- The services that declare each of the resource groups, in increasing order. -/
  owners : SortedMap String (List String) := ∅
  subscription : Option Subscription := none
  /-- The definitions of the steps by service. -/
  steps : SortedMap String StepRegistry := ∅
  nodes : List Node := []
  validationSteps : SortedMap Identifier ValidationStep := ∅

namespace Graph

def node? (g : Graph) (i : Identifier) : Option Node :=
  g.nodes.find? (·.identifier = i)

def step? (g : Graph) (i : Identifier) : Option Step := do
  (← g.steps.lookup i.serviceGroup).find? i.reference

def ownersOf (g : Graph) (resourceGroup : String) : List String :=
  (g.owners.lookup resourceGroup).getD []

def roots (g : Graph) : List Identifier := (g.nodes.filter Node.isRoot).map Node.identifier

def leaves (g : Graph) : List Identifier := (g.nodes.filter Node.isLeaf).map Node.identifier

end Graph

end RolloutPlan
