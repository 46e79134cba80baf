import RolloutPlan.Graph.Error

/-!
# What a pipeline contributes to a graph

A pipeline is looked at on its own: its names are collected, its dependencies become edges, and every
step becomes a node with its neighbours in increasing order.

* `Inventory`: the names of a pipeline with what they stand for; no name is declared twice.
* `Edge`: a step has to come before another one.
* `Contribution`: an inventory with nodes.
* `Pipeline.contribution`: the contribution of a pipeline, or the first reason why it has none.
-/

namespace RolloutPlan

/-- What a pipeline declares. -/
structure Inventory where
  resourceGroups : SortedMap String ResourceGroupTarget := ∅
  subscription : Option Subscription := none
  steps : StepRegistry := {}
  validationSteps : SortedMap Identifier ValidationStep := ∅

namespace Inventory

/-- Adds the steps of a resource group to those that it has. -/
def addSteps (serviceGroup resourceGroup : String) :
    SortedMap String Step → List Step → Except GraphError (SortedMap String Step)
  | known, [] => .ok known
  | known, s :: l =>
    if (known.lookup s.name).isSome then
      .error (.duplicateStep serviceGroup ⟨resourceGroup, s.name⟩)
    else addSteps serviceGroup resourceGroup (Sorted.put s.name s known) l

/-- Adds the validation steps of a resource group; of several with one name the last one counts. -/
def addValidationSteps (serviceGroup resourceGroup : String)
    (known : SortedMap Identifier ValidationStep) (l : List ValidationStep) :
    SortedMap Identifier ValidationStep :=
  l.foldl (fun m s => Sorted.put ⟨serviceGroup, resourceGroup, s.header.name⟩ s m) known

/-- Adds the request of a resource group for a subscription. -/
def addSubscription (serviceGroup : String) (known : Option Subscription) (g : ResourceGroup) :
    Except GraphError (Option Subscription) :=
  match known, g.subscriptionProvisioning with
  | known, none => .ok known
  | some _, some _ => .error (.severalSubscriptions serviceGroup)
  | none, some config => .ok (some ⟨serviceGroup, g.name, config⟩)

def addGroup (serviceGroup : String) (d : Inventory) (g : ResourceGroup) :
    Except GraphError Inventory := do
  if (d.resourceGroups.lookup g.name).isSome then
    throw (.duplicateResourceGroup serviceGroup g.name)
  let subscription ← addSubscription serviceGroup d.subscription g
  let steps ← addSteps serviceGroup g.name ∅ g.steps
  return {
    resourceGroups := Sorted.put g.name g.target d.resourceGroups
    subscription
    steps := ⟨Sorted.put g.name steps d.steps.groups⟩
    validationSteps :=
      addValidationSteps serviceGroup g.name d.validationSteps g.validationSteps }

def addGroups (serviceGroup : String) :
    Inventory → List ResourceGroup → Except GraphError Inventory
  | d, [] => .ok d
  | d, g :: l => do addGroups serviceGroup (← d.addGroup serviceGroup g) l

def identifiers (serviceGroup : String) (d : Inventory) : List Identifier :=
  d.steps.flatMap fun (resourceGroup, steps) =>
    steps.map fun (step, _) => ⟨serviceGroup, resourceGroup, step⟩

def contains (d : Inventory) (r : StepReference) : Bool :=
  (d.steps.find? r).isSome

end Inventory

/-- A step has to come before another one. -/
structure Edge where
  before : Identifier
  after : Identifier
deriving DecidableEq

namespace Edge

/-- The edges to a step from the steps it depends on. -/
def toStep (serviceGroup : String) (d : Inventory) (step : StepReference) :
    List StepReference → Except GraphError (List Edge)
  | [] => .ok []
  | r :: l =>
    if d.contains r then do
      let edges ← toStep serviceGroup d step l
      return ⟨.ofReference serviceGroup r, .ofReference serviceGroup step⟩ :: edges
    else .error (.unknownDependency serviceGroup step r)

/-- The edges to some steps, each given with the resource group that it stands in. -/
def toSteps (serviceGroup : String) (d : Inventory) :
    List (ResourceGroup × Step) → Except GraphError (List Edge)
  | [] => .ok []
  | (g, s) :: l => do
    let edges ← toStep serviceGroup d ⟨g.name, s.name⟩ s.dependencySet
    return edges ++ (← toSteps serviceGroup d l)

/-- A step with its neighbours. The edges to one step stand in the order of their beginnings. -/
def node (edges : List Edge) (i : Identifier) : Node where
  identifier := i
  children := Sorted.sort ((edges.filter (·.before = i)).map Edge.after)
  parents := (edges.filter (·.after = i)).map Edge.before

end Edge

/-- What a pipeline contributes to a graph. -/
structure Contribution where
  inventory : Inventory
  /-- In increasing order. -/
  nodes : List Node

def Pipeline.contribution (p : Pipeline) : Except GraphError Contribution := do
  let inventory ← Inventory.addGroups p.serviceGroup {} p.resourceGroups
  let edges ← Edge.toSteps p.serviceGroup inventory p.declaredSteps
  return ⟨inventory, (inventory.identifiers p.serviceGroup).map (Edge.node edges)⟩

end RolloutPlan
