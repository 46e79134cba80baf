import RolloutPlan.Json.Basic
import RolloutPlan.Topology.Basic
import RolloutPlan.Yaml.Record

/-!
# Reading and writing topologies

Topologies are read directly from the tree of a document: every scalar is a text. Lists and metadata
that are empty, and what is absent, are not written.

* `Topology.ofTree?`, `Topology.encode`, with their counterparts for services and entrypoints.
-/

namespace RolloutPlan

open Yaml

/-- Texts by their keys; of several values for a key the last one counts. -/
def metadataOfTree? (t : Tree) : Option (SortedMap String String) := do
  let entries ← (← t.entries?).mapM fun (k, v) => do return (← k.text?, ← v.text?)
  return Sorted.ofPairs entries

def Json.presentText (key : String) (s : Option String) : List (String × Json) :=
  (s.map fun s => (key, Json.string s)).toList

def metadataMembers (m : SortedMap String String) : List (String × Json) :=
  if m.isEmpty then [] else [("metadata", .object (m.map fun (k, v) => (k, .string v)))]

def Service.ofTree? : Nat → Tree → Option Service
  | 0, _ => none
  | depth + 1, t => do
    let r ← t.record?
    return {
      serviceGroup := ← r.required "serviceGroup" Tree.text?
      purpose := ← r.optional "purpose" (Tree.optional? Tree.text?)
      pipelinePath := ← r.optional "pipelinePath" (Tree.optional? Tree.text?)
      children := ← r.withDefault "children" [] (Tree.list? (Service.ofTree? depth))
      metadata := ← r.withDefault "metadata" ∅ metadataOfTree? }

def Entrypoint.ofTree? (t : Tree) : Option Entrypoint := do
  let r ← t.record?
  return {
    identifier := ← r.required "identifier" Tree.text?
    metadata := ← r.withDefault "metadata" ∅ metadataOfTree? }

def Topology.ofTree? (t : Tree) : Option Topology := do
  let r ← t.record?
  return {
    services := ← r.withDefault "services" [] (Tree.list? (Service.ofTree? maxDepth))
    entrypoints := ← r.withDefault "entrypoints" [] (Tree.list? Entrypoint.ofTree?) }

def Topology.read? (text : String) : Option Topology :=
  (Tree.ofText? text).bind Topology.ofTree?

mutual
def Service.encode : Service → Json
  | ⟨group, purpose, path, children, metadata⟩ =>
    .object (("serviceGroup", .string group) :: (Json.presentText "purpose" purpose ++
      Json.presentText "pipelinePath" path ++
      (if children.isEmpty then [] else [("children", .array (Service.encodeAll children))]) ++
      metadataMembers metadata))
def Service.encodeAll : List Service → List Json
  | [] => []
  | s :: l => s.encode :: Service.encodeAll l
end

def Entrypoint.encode (e : Entrypoint) : Json :=
  .object (("identifier", .string e.identifier) :: metadataMembers e.metadata)

def Topology.encode (t : Topology) : Json :=
  .object (
    (if t.services.isEmpty then [] else [("services", .array (Service.encodeAll t.services))]) ++
    (if t.entrypoints.isEmpty then [] else
      [("entrypoints", .array (t.entrypoints.map Entrypoint.encode))]))

end RolloutPlan
