import Std.Data.HashMap
import Std.Data.HashSet
import RolloutPlan.Graph.Node

/-!
# Cycles

Depth-first search along children, from every node in turn. What can be reached from a step that was
explored to the end has no cycle that the search has not met, so the step is not explored again from
the same start.

* `ChildIndex`: the children of every listed step. Of several nodes for a step the last one counts.
* `ChildIndex.explore`: the search from the end of a path.
* `Obstacle`, `findObstacle?`: what ends a search, and the search from every node.
-/

namespace RolloutPlan

/-- The children of every listed step. -/
abbrev ChildIndex := Std.HashMap Identifier (List Identifier)

/-- What ends a search. -/
inductive Obstacle where
  /-- A path whose last step stands in it before. -/
  | cycle (path : List Identifier)
  /-- A child that has no node. -/
  | missing (identifier : Identifier)
deriving DecidableEq

namespace ChildIndex

def ofNodes (nodes : List Node) : ChildIndex :=
  nodes.foldl (fun index n => index.insert n.identifier n.children) ∅

@[simp] theorem ofNodes_nil : ofNodes [] = ∅ :=
  rfl

@[simp] theorem ofNodes_concat (l : List Node) (n : Node) :
    ofNodes (l ++ [n]) = (ofNodes l).insert n.identifier n.children := by
  simp [ofNodes]

/-- The listed steps that are not on a path. -/
def offPath (index : ChildIndex) (path : List Identifier) : List Identifier :=
  index.keys.filter fun i => !path.contains i

theorem mem_of_getElem? {index : ChildIndex} {c : Identifier} {children : List Identifier}
    (listed : index[c]? = some children) : c ∈ index :=
  Std.HashMap.mem_iff_isSome_getElem?.2 (by simp [listed])

/-- A listed step that a path is extended by is on it from then on. -/
theorem length_offPath_lt {index : ChildIndex} {path : List Identifier} {c : Identifier}
    (listed : c ∈ index) (fresh : c ∉ path) :
    (index.offPath (path ++ [c])).length < (index.offPath path).length := by
  have h : index.offPath (path ++ [c]) =
      (index.offPath path).filter fun i => !decide (i = c) := by
    simp only [offPath, List.filter_filter]
    congr 1
    funext i
    by_cases hi : i = c <;> simp [hi, fresh]
  have hc : c ∈ index.offPath path := by
    simp [offPath, Std.HashMap.mem_keys, listed, fresh]
  rw [h]
  exact List.length_filter_lt_length_iff_exists.2 ⟨c, hc, by simp⟩

/-- Explores the children of the last step of a path. It gives the steps that have been explored to
the end from this start, which are not explored again. -/
def explore (index : ChildIndex) (path : List Identifier) :
    List Identifier → Std.HashSet Identifier → Except Obstacle (Std.HashSet Identifier)
  | [], finished => .ok finished
  | c :: siblings, finished =>
    if fresh : c ∈ path then .error (.cycle (path ++ [c]))
    else if finished.contains c then explore index path siblings finished
    else
      match listed : index[c]? with
      | none => .error (.missing c)
      | some children =>
        have := length_offPath_lt (mem_of_getElem? listed) fresh
        match explore index (path ++ [c]) children finished with
        | .error obstacle => .error obstacle
        | .ok finished => explore index path siblings (finished.insert c)
termination_by siblings => ((index.offPath path).length, siblings.length)

def exploreAll (index : ChildIndex) : List Node → Except Obstacle Unit
  | [] => .ok ()
  | n :: l =>
    match index.explore [n.identifier] n.children ∅ with
    | .error obstacle => .error obstacle
    | .ok _ => exploreAll index l

end ChildIndex

def findObstacle? (nodes : List Node) : Option Obstacle :=
  match (ChildIndex.ofNodes nodes).exploreAll nodes with
  | .error obstacle => some obstacle
  | .ok _ => none

end RolloutPlan
