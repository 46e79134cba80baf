import RolloutPlan.Topology.Basic

/-!
# Sound topologies

A topology is sound when every service group stands once in its forest and every entrypoint names
one of them. All problems are found together.

* `TopologyProblem`: what can be wrong.
* `Topology.problems`: everything that is wrong, duplicates first and then entrypoint by entrypoint.
* `Topology.validate`: the topology is sound, or these are its problems.
-/

namespace RolloutPlan

/-- A service group that is looked for and is not there. -/
structure UnknownService where
  serviceGroup : String
deriving DecidableEq

def UnknownService.message (e : UnknownService) : String :=
  "service group " ++ e.serviceGroup ++ " not found in service tree"

/-- What can be wrong with a topology. -/
inductive TopologyProblem where
  /-- These groups, in increasing order, stand more than once in the forest. -/
  | duplicateGroups (groups : List String)
  | emptyEntrypoint
  | unknownEntrypoint (identifier : String)
deriving DecidableEq

def TopologyProblem.message : TopologyProblem → String
  | .duplicateGroups groups =>
    "the following pipelines had duplicate entries: [" ++ " ".intercalate groups ++ "]"
  | .emptyEntrypoint => "entrypoint identifier cannot be empty"
  | .unknownEntrypoint identifier =>
    "entrypoint " ++ identifier ++ " was not found in the dependency tree"

/-- The problems of a topology that is not sound. -/
structure InvalidTopology where
  problems : List TopologyProblem
deriving DecidableEq

def InvalidTopology.message (e : InvalidTopology) : String :=
  "dependency tree invalid: " ++ ", ".intercalate (e.problems.map TopologyProblem.message)

/-- The groups that were met, and those that were met again. -/
structure GroupCensus where
  seen : List String
  repeated : List String

namespace GroupCensus

def empty : GroupCensus := ⟨[], []⟩

def add (c : GroupCensus) (group : String) : GroupCensus :=
  if c.seen.contains group then { c with repeated := Sorted.insert group c.repeated }
  else { c with seen := group :: c.seen }

mutual
def walk (c : GroupCensus) : Service → GroupCensus
  | ⟨group, _, _, children, _⟩ => walkAll (c.add group) children
def walkAll (c : GroupCensus) : List Service → GroupCensus
  | [] => c
  | s :: l => walkAll (walk c s) l
end

end GroupCensus

namespace Topology

def lookup (t : Topology) (group : String) : Except UnknownService Service :=
  match t.lookup? group with
  | some s => .ok s
  | none => .error ⟨group⟩

def entrypointProblems (c : GroupCensus) (e : Entrypoint) : List TopologyProblem :=
  (if e.identifier = "" then [.emptyEntrypoint] else []) ++
    (if c.seen.contains e.identifier then [] else [.unknownEntrypoint e.identifier])

def problems (t : Topology) : List TopologyProblem :=
  let census := GroupCensus.empty.walkAll t.services
  (if census.repeated = [] then [] else [.duplicateGroups census.repeated]) ++
    t.entrypoints.flatMap (entrypointProblems census)

def validate (t : Topology) : Except InvalidTopology Unit :=
  if t.problems = [] then .ok () else .error ⟨t.problems⟩

end Topology

end RolloutPlan
