import RolloutPlan.Json.Basic
import RolloutPlan.Pipeline.Reference

/-!
# Nodes

A step anywhere in a rollout has an identifier, and a node is a step with its direct neighbours.

* `Identifier`: identifiers are ordered by service group, then resource group, then step.
* `Node`: its children come after it and its parents before it.
* `Node.encode`, `Node.ofJson?`: nodes as JSON.
-/

namespace RolloutPlan

/-- A step anywhere in a rollout. -/
structure Identifier where
  serviceGroup : String
  resourceGroup : String
  step : String
deriving DecidableEq, Hashable

namespace Identifier

def key (i : Identifier) : List String := [i.serviceGroup, i.resourceGroup, i.step]

instance : LT Identifier := ⟨fun a b => a.key < b.key⟩

instance : DecidableLT Identifier := fun a b => inferInstanceAs (Decidable (a.key < b.key))

instance : StrictlyOrdered Identifier := .of_key key (fun _ _ => Iff.rfl) fun i j h => by
  cases i
  cases j
  simpa [key] using h

/-- The step of a service that one of its own steps refers to. -/
def ofReference (serviceGroup : String) (r : StepReference) : Identifier :=
  ⟨serviceGroup, r.resourceGroup, r.step⟩

def reference (i : Identifier) : StepReference := ⟨i.resourceGroup, i.step⟩

def text (i : Identifier) : String := i.serviceGroup ++ "/" ++ i.reference.text

def members (i : Identifier) : List (String × Json) :=
  [("serviceGroup", .string i.serviceGroup), ("resourceGroup", .string i.resourceGroup),
    ("step", .string i.step)]

def encode (i : Identifier) : Json := .object i.members

/-- Reads an identifier from the members of an object. -/
def ofMembers? (j : Json) : Option Identifier := do
  return {
    serviceGroup := ← (← j.field? "serviceGroup").text?
    resourceGroup := ← (← j.field? "resourceGroup").text?
    step := ← (← j.field? "step").text? }

def ofJson? : Json → Option Identifier
  | .array [.string serviceGroup, .string resourceGroup, .string step] =>
    some ⟨serviceGroup, resourceGroup, step⟩
  | j => ofMembers? j

end Identifier

/-- A step with its direct neighbours. -/
structure Node where
  identifier : Identifier
  children : List Identifier := []
  parents : List Identifier := []
deriving DecidableEq

namespace Node

def isRoot (n : Node) : Bool := n.parents.isEmpty

def isLeaf (n : Node) : Bool := n.children.isEmpty

def encode (n : Node) : Json :=
  .object (n.identifier.members ++
    [("children", .array (n.children.map Identifier.encode)),
      ("parents", .array (n.parents.map Identifier.encode))])

def ofJson? (j : Json) : Option Node := do
  return {
    identifier := ← Identifier.ofMembers? j
    children := ← (← (← j.field? "children").items?).mapM Identifier.ofJson?
    parents := ← (← (← j.field? "parents").items?).mapM Identifier.ofJson? }

end Node

end RolloutPlan
