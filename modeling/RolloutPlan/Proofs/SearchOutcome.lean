import RolloutPlan.Proofs.Search

/-!
# What the search for cycles decides

The search ends, and it ends without an obstacle exactly when there is none: every child is listed and
the children have no cycle.

* `ChildIndex.exploreWithin`: the search with a bound on how deep it goes. It gives up beyond the bound.
* `ChildIndex.exploreWithin_eq`: a bound on the listed steps that are not on the path is never passed.
* `findObstacleWithin?_length`: so the number of nodes is deep enough for the searches from all nodes.
* `findObstacle?_sound_complete`: what every outcome of the search says about the children.
-/

namespace RolloutPlan

set_option autoImplicit false

/-! ## Searching to a depth -/

namespace ChildIndex

/-- Explores the children of the last step of a path, and goes at most so many steps further. A search
that has to go further gives up. -/
def exploreWithin (index : ChildIndex) (depth : Nat) (path : List Identifier) :
    List Identifier → Std.HashSet Identifier → Option (Except Obstacle (Std.HashSet Identifier))
  | [], finished => some (.ok finished)
  | c :: siblings, finished =>
    if c ∈ path then some (.error (.cycle (path ++ [c])))
    else if finished.contains c then exploreWithin index depth path siblings finished
    else
      match index[c]? with
      | none => some (.error (.missing c))
      | some children =>
        if depth = 0 then none
        else
          match exploreWithin index (depth - 1) (path ++ [c]) children finished with
          | none => none
          | some (.error obstacle) => some (.error obstacle)
          | some (.ok below) => exploreWithin index depth path siblings (below.insert c)
termination_by siblings => (depth, siblings.length)

def exploreAllWithin (index : ChildIndex) (depth : Nat) : List Node → Option (Except Obstacle Unit)
  | [] => some (.ok ())
  | n :: l =>
    match index.exploreWithin depth [n.identifier] n.children ∅ with
    | none => none
    | some (.error obstacle) => some (.error obstacle)
    | some (.ok _) => exploreAllWithin index depth l

/-- Every step further takes a listed step off those that are not on the path, so that the search never
goes further than there are such steps. -/
theorem exploreWithin_eq {index : ChildIndex} {path siblings : List Identifier}
    {finished : Std.HashSet Identifier} {depth : Nat} (h : (index.offPath path).length ≤ depth) :
    exploreWithin index depth path siblings finished = some (explore index path siblings finished) := by
  fun_induction explore index path siblings finished generalizing depth with
  | case1 path finished => rw [exploreWithin]
  | case2 path c siblings finished hc => rw [exploreWithin, if_pos hc]
  | case3 path c siblings finished hc hknown ih =>
    rw [exploreWithin, if_neg hc, if_pos hknown, ih h]
  | case4 path c siblings finished hc hknown hnone =>
    rw [exploreWithin, if_neg hc, if_neg hknown]
    simp only [hnone]
  | case5 path c siblings finished hc hknown children listed hlt obstacle hbelow ih =>
    have hdepth : depth ≠ 0 := by omega
    have hfurther : (index.offPath (path ++ [c])).length ≤ depth - 1 := by omega
    rw [exploreWithin, if_neg hc, if_neg hknown]
    simp only [listed, hdepth, if_false, ih hfurther, hbelow]
  | case6 path c siblings finished hc hknown children listed hlt below hbelow ihbelow ih =>
    have hdepth : depth ≠ 0 := by omega
    have hfurther : (index.offPath (path ++ [c])).length ≤ depth - 1 := by omega
    rw [exploreWithin, if_neg hc, if_neg hknown]
    simp only [listed, hdepth, if_false, ihbelow hfurther, hbelow]
    exact ih h

theorem length_offPath_ofNodes_le (nodes : List Node) (path : List Identifier) :
    ((ofNodes nodes).offPath path).length ≤ nodes.length := by
  have hsize : (ofNodes nodes).size ≤ nodes.length := by
    induction nodes using List.reverseRecOn with
    | nil => simp
    | append_singleton l n ih =>
      rw [ofNodes_concat, List.length_append, List.length_singleton]
      exact Std.HashMap.size_insert_le.trans (Nat.add_le_add_right ih 1)
  calc ((ofNodes nodes).offPath path).length
      ≤ (ofNodes nodes).keys.length := List.length_filter_le _ _
    _ = (ofNodes nodes).size := Std.HashMap.length_keys
    _ ≤ nodes.length := hsize

theorem exploreAllWithin_eq {index : ChildIndex} {depth : Nat}
    (h : ∀ path, (index.offPath path).length ≤ depth) : ∀ l : List Node,
    exploreAllWithin index depth l = some (exploreAll index l)
  | [] => rfl
  | n :: l => by
    rw [exploreAllWithin, exploreAll, exploreWithin_eq (h [n.identifier])]
    cases index.explore [n.identifier] n.children ∅ with
    | error obstacle => rfl
    | ok finished => exact exploreAllWithin_eq h l

end ChildIndex

/-- The searches from all nodes, each of which goes at most so many steps deep. Without an answer one of
them gave up. -/
def findObstacleWithin? (depth : Nat) (nodes : List Node) : Option (Option Obstacle) :=
  ((ChildIndex.ofNodes nodes).exploreAllWithin depth nodes).map fun
    | .error obstacle => some obstacle
    | .ok () => none

/-- No search goes deeper than there are nodes. -/
theorem findObstacleWithin?_length (nodes : List Node) :
    findObstacleWithin? nodes.length nodes = some (findObstacle? nodes) := by
  rw [findObstacleWithin?,
    ChildIndex.exploreAllWithin_eq (ChildIndex.length_offPath_ofNodes_le nodes), findObstacle?]
  cases (ChildIndex.ofNodes nodes).exploreAll nodes <;> rfl

/-! ## Outcomes -/

theorem IsLasso.exists_start {nodes : List Node} {path : List Identifier}
    (h : IsLasso (LeadsTo nodes) path) : ∃ n ∈ nodes, path.head? = some n.identifier := by
  obtain ⟨first, last, rfl, hlast, -, hchain⟩ := h
  obtain ⟨start, rest, rfl⟩ := List.exists_cons_of_ne_nil (List.ne_nil_of_mem hlast)
  obtain ⟨next, tail, htail⟩ := List.exists_cons_of_ne_nil
    (List.append_ne_nil_of_right_ne_nil rest (List.cons_ne_nil last []))
  rw [List.cons_append, htail] at hchain
  obtain ⟨⟨n, hn, hstart, -⟩, -⟩ := List.isChain_cons_cons.1 hchain
  refine ⟨n, hn, ?_⟩
  rw [hstart, List.cons_append, List.head?_cons]

section
variable {nodes : List Node} (hnodup : (nodes.map Node.identifier).Nodup)
include hnodup

theorem mem_identifiers_of_settled {i : Identifier} (h : (ChildIndex.ofNodes nodes).Settled i) :
    i ∈ nodes.map Node.identifier := by
  cases h with
  | intro listed _ =>
    obtain ⟨n, hn, rfl, -⟩ := (ChildIndex.getElem?_ofNodes_eq_some_iff hnodup).1 listed
    exact List.mem_map_of_mem hn

/-- There is no obstacle when every child is listed and no step comes after itself. -/
theorem findObstacle?_eq_none_iff : findObstacle? nodes = none ↔
    (∀ n ∈ nodes, ∀ c ∈ n.children, c ∈ nodes.map Node.identifier) ∧
      ∀ i, ¬ Relation.TransGen (LeadsTo nodes) i i := by
  constructor
  · intro h
    refine ⟨fun n hn c hc => ?_, acyclic_of_findObstacle? hnodup h⟩
    exact mem_identifiers_of_settled hnodup (settled_of_findObstacle? h n hn c hc)
  · rintro ⟨hlisted, hacyclic⟩
    cases h : findObstacle? nodes with
    | none => rfl
    | some obstacle =>
      cases obstacle with
      | cycle path =>
        obtain ⟨i, hi⟩ := (isLasso_of_findObstacle? hnodup h).not_acyclic
        exact absurd hi (hacyclic i)
      | missing i =>
        obtain ⟨⟨n, hn, hi⟩, hmissing⟩ := missing_of_findObstacle? hnodup h
        exact absurd (hlisted n hn i hi) hmissing

/-- The search for cycles ends, and it tells whether every child is listed and no step comes after itself.
A path that it finds starts at a node, follows children and runs into itself with its last step only, and
a step that it misses is a child without a node. -/
theorem findObstacle?_sound_complete :
    findObstacleWithin? nodes.length nodes = some (findObstacle? nodes) ∧
    (findObstacle? nodes = none ↔
      (∀ n ∈ nodes, ∀ c ∈ n.children, c ∈ nodes.map Node.identifier) ∧
        ∀ i, ¬ Relation.TransGen (LeadsTo nodes) i i) ∧
    (∀ path, findObstacle? nodes = some (.cycle path) →
      (∃ n ∈ nodes, path.head? = some n.identifier) ∧ IsLasso (LeadsTo nodes) path) ∧
    ∀ i, findObstacle? nodes = some (.missing i) →
      (∃ n ∈ nodes, i ∈ n.children) ∧ i ∉ nodes.map Node.identifier := by
  refine ⟨findObstacleWithin?_length nodes, findObstacle?_eq_none_iff hnodup, ?_, ?_⟩
  · intro path h
    have hlasso := isLasso_of_findObstacle? hnodup h
    exact ⟨hlasso.exists_start, hlasso⟩
  · intro i h
    exact missing_of_findObstacle? hnodup h

end

namespace Roundabout

def identifier (step : String) : Identifier := ⟨"network", "rg", step⟩

/-- Two steps that wait for each other, and one that leads to them. -/
def nodes : List Node :=
  [{ identifier := identifier "enter", children := [identifier "left"] },
    { identifier := identifier "left", children := [identifier "right"] },
    { identifier := identifier "right", children := [identifier "left"] }]

def path : List Identifier := ["enter", "left", "right", "left"].map identifier

theorem findObstacle?_nodes : findObstacle? nodes = some (.cycle path) := by
  simp [findObstacle?, ChildIndex.exploreAll, ChildIndex.ofNodes, nodes, path, identifier,
    ChildIndex.explore_cons, Std.HashMap.getElem_insert]

end Roundabout

theorem findObstacle?_roundabout : (Roundabout.nodes.map Node.identifier).Nodup ∧
    findObstacle? Roundabout.nodes = some (.cycle Roundabout.path) ∧
      (∃ n ∈ Roundabout.nodes, Roundabout.path.head? = some n.identifier) ∧
        IsLasso (LeadsTo Roundabout.nodes) Roundabout.path := by
  have hnodup : (Roundabout.nodes.map Node.identifier).Nodup := by decide
  have hcycle := Roundabout.findObstacle?_nodes
  exact ⟨hnodup, hcycle, (findObstacle?_sound_complete hnodup).2.2.1 _ hcycle⟩

end RolloutPlan
