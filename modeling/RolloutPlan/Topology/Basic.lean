import RolloutPlan.Sorted

/-!
# Topologies

The services of a rollout form a forest: a service is rolled out after the service it stands under.
Entrypoints select the sub-trees that are rolled out together.

* `Service`, `Entrypoint`, `Topology`.
* `Service.preorder`, `Topology.preorder`: every service, each before those under it.
  `Service.preorderAll_append`, `preorderAll_reverse_perm`: joined and reversed forests.
* `Topology.lookup?`: the sub-tree of a service group.
-/

namespace RolloutPlan

/-- A service with the services under it. -/
structure Service where
  serviceGroup : String
  purpose : Option String := none
  /-- Where its pipeline is written, relative to the topology. -/
  pipelinePath : Option String := none
  children : List Service := []
  metadata : SortedMap String String := ∅
deriving Inhabited

/-- The choice of the sub-tree of a service. -/
structure Entrypoint where
  identifier : String
  metadata : SortedMap String String := ∅

/-- A forest of services with its entrypoints. -/
structure Topology where
  services : List Service := []
  entrypoints : List Entrypoint := []

namespace Service

def withoutChildren (s : Service) : Service := { s with children := [] }

mutual
def preorder : Service → List Service
  | ⟨group, purpose, path, children, metadata⟩ =>
    ⟨group, purpose, path, children, metadata⟩ :: preorderAll children
def preorderAll : List Service → List Service
  | [] => []
  | s :: l => s.preorder ++ preorderAll l
end

theorem preorder_eq_cons (s : Service) : s.preorder = s :: preorderAll s.children := by
  cases s
  rw [preorder]

@[simp] theorem preorderAll_append (l m : List Service) :
    preorderAll (l ++ m) = preorderAll l ++ preorderAll m := by
  induction l with
  | nil => rfl
  | cons s l ih => rw [List.cons_append, preorderAll, preorderAll, ih, List.append_assoc]

theorem preorderAll_reverse_perm (l : List Service) :
    (preorderAll l.reverse).Perm (preorderAll l) := by
  induction l with
  | nil => exact .refl _
  | cons s l ih =>
    have hs : preorderAll [s] = s.preorder := List.append_nil _
    rw [List.reverse_cons, preorderAll_append, hs, preorderAll]
    exact List.perm_append_comm.trans (ih.append_left _)

mutual
/-- The first service of a group in a sub-tree. A service is looked at before those under it. -/
def find? (group : String) : Service → Option Service
  | ⟨g, purpose, path, children, metadata⟩ =>
    if g = group then some ⟨g, purpose, path, children, metadata⟩ else findAny? group children
def findAny? (group : String) : List Service → Option Service
  | [] => none
  | s :: l => (s.find? group).or (findAny? group l)
end

end Service

namespace Topology

def preorder (t : Topology) : List Service := Service.preorderAll t.services

def lookup? (t : Topology) (group : String) : Option Service :=
  Service.findAny? group t.services

end Topology

end RolloutPlan
