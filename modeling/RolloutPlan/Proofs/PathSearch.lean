import RolloutPlan.Proofs.Search

/-!
# Searching along every path

The search for cycles does not explore a step again that it has explored to the end. The plain search
explores every child on every path, and it finds the same: what comes after a finished step has been
explored as well, so no path that is searched later runs through any of it.

* `ChildIndex.explorePaths`, `findObstacleOnPaths?`: the plain search.
* `ChildIndex.explorePaths_cons_of_settled`: it finds nothing at a settled step that leads to no step of
  the path.
* `ChildIndex.Finished`: what holds of finished steps while a path is searched; `Finished.enter` and
  `Finished.leave` say that a step further and a step back keep it.
* `ChildIndex.map_explore`: the two searches from the end of a path.
* `findObstacle?_eq_findObstacleOnPaths?`: the two searches from all nodes.
-/

namespace RolloutPlan

set_option autoImplicit false

namespace ChildIndex

/-! ## The plain search -/

/-- Explores the children of the last step of a path, each of them on every path that leads to it. -/
def explorePaths (index : ChildIndex) (path : List Identifier) :
    List Identifier → Except Obstacle Unit
  | [] => .ok ()
  | c :: siblings =>
    if fresh : c ∈ path then .error (.cycle (path ++ [c]))
    else
      match listed : index[c]? with
      | none => .error (.missing c)
      | some children =>
        have := length_offPath_lt (mem_of_getElem? listed) fresh
        match explorePaths index (path ++ [c]) children with
        | .error obstacle => .error obstacle
        | .ok () => explorePaths index path siblings
termination_by siblings => ((index.offPath path).length, siblings.length)

def exploreAllPaths (index : ChildIndex) : List Node → Except Obstacle Unit
  | [] => .ok ()
  | n :: l =>
    match index.explorePaths [n.identifier] n.children with
    | .error obstacle => .error obstacle
    | .ok () => exploreAllPaths index l

/-- The plain search without the reason why it ends. -/
theorem explorePaths_cons (index : ChildIndex) (path siblings : List Identifier) (c : Identifier) :
    explorePaths index path (c :: siblings) =
      if c ∈ path then .error (.cycle (path ++ [c]))
      else match index[c]? with
        | none => .error (.missing c)
        | some children =>
          match explorePaths index (path ++ [c]) children with
          | .error obstacle => .error obstacle
          | .ok () => explorePaths index path siblings := by
  rw [explorePaths]
  split_ifs
  · rfl
  · split
    · rename_i hnone
      rw [hnone]
    · rename_i children hsome
      cases hbelow : explorePaths index (path ++ [c]) children <;> simp only [hsome, hbelow]

/-- What is off a path and settled is still off it when the path goes on with the step before. -/
theorem Settled.off_path_concat {index : ChildIndex} {path : List Identifier} {c d : Identifier}
    (hc : index.Settled c) (hoff : ∀ j, Relation.ReflTransGen index.LeadsTo c j → j ∉ path)
    (hd : index.LeadsTo c d) :
    ∀ j, Relation.ReflTransGen index.LeadsTo d j → j ∉ path ++ [c] := by
  intro j hj hmem
  rcases List.mem_append.1 hmem with hmem | hmem
  · exact hoff j (.head hd hj) hmem
  · obtain rfl := List.mem_singleton.1 hmem
    exact hc.acyclic (.head' hd hj)

/-- Nothing is found at a step that is settled, if no step after it is on the path. -/
theorem explorePaths_cons_of_settled {index : ChildIndex} {c : Identifier} (hc : index.Settled c)
    {path : List Identifier} (hoff : ∀ j, Relation.ReflTransGen index.LeadsTo c j → j ∉ path)
    (siblings : List Identifier) :
    explorePaths index path (c :: siblings) = explorePaths index path siblings := by
  induction hc generalizing path siblings with
  | @intro c children listed hchildren ih =>
    have hc : index.Settled c := .intro listed hchildren
    have hbelow : ∀ l, (∀ d ∈ l, d ∈ children) → explorePaths index (path ++ [c]) l = .ok () := by
      intro l hl
      induction l with
      | nil => rw [explorePaths]
      | cons d l ihl =>
        obtain ⟨hd, hl⟩ := List.forall_mem_cons.1 hl
        rw [ih d hd (hc.off_path_concat hoff ⟨children, listed, hd⟩), ihl hl]
    rw [explorePaths_cons, if_neg (hoff c .refl)]
    simp only [listed, hbelow children fun d hd => hd]

/-! ## Finished steps -/

/-- The steps that have been explored to the end while a path is searched. What comes after them has
been explored too, and the path does not run through them. -/
structure Finished (index : ChildIndex) (path : List Identifier)
    (finished : Std.HashSet Identifier) : Prop where
  settled : ∀ i ∈ finished, index.Settled i
  closed : ∀ i ∈ finished, ∀ j, index.LeadsTo i j → j ∈ finished
  off_path : ∀ i ∈ finished, i ∉ path

namespace Finished
variable {index : ChildIndex} {path : List Identifier} {finished : Std.HashSet Identifier}
  {c : Identifier}

theorem empty (index : ChildIndex) (path : List Identifier) : index.Finished path ∅ := by
  constructor <;> simp

theorem mem_of_reflTransGen (h : index.Finished path finished) {i j : Identifier}
    (hi : i ∈ finished) (hij : Relation.ReflTransGen index.LeadsTo i j) : j ∈ finished := by
  induction hij with
  | refl => exact hi
  | tail _ hstep ih => exact h.closed _ ih _ hstep

/-- A path goes on with a step that is not finished. -/
theorem enter (h : index.Finished path finished) (hc : c ∉ finished) :
    index.Finished (path ++ [c]) finished := by
  refine ⟨h.settled, h.closed, ?_⟩
  intro i hi hmem
  rcases List.mem_append.1 hmem with hmem | hmem
  · exact h.off_path i hi hmem
  · exact hc (List.mem_singleton.1 hmem ▸ hi)

/-- A path goes back from a step whose children are finished. -/
theorem leave (h : index.Finished (path ++ [c]) finished) (hc : c ∉ path)
    {children : List Identifier} (listed : index[c]? = some children)
    (hchildren : ∀ j ∈ children, j ∈ finished) : index.Finished path (finished.insert c) := by
  constructor
  case settled =>
    intro i hi
    rcases Std.HashSet.mem_insert.1 hi with hi | hi
    · rw [← eq_of_beq hi]
      exact .intro listed fun j hj => h.settled j (hchildren j hj)
    · exact h.settled i hi
  case closed =>
    intro i hi j hij
    refine Std.HashSet.mem_insert.2 (.inr ?_)
    rcases Std.HashSet.mem_insert.1 hi with hi | hi
    · obtain ⟨children', listed', hj⟩ := hij
      rw [← eq_of_beq hi, listed] at listed'
      obtain rfl := Option.some.inj listed'
      exact hchildren j hj
    · exact h.closed i hi j hij
  case off_path =>
    intro i hi hmem
    rcases Std.HashSet.mem_insert.1 hi with hi | hi
    · exact hc (eq_of_beq hi ▸ hmem)
    · exact h.off_path i hi (List.mem_append_left _ hmem)

end Finished

/-- A search that finds nothing leaves finished steps behind. -/
theorem finished_of_explore {index : ChildIndex} {path siblings : List Identifier}
    {finished finished' : Std.HashSet Identifier}
    (h : explore index path siblings finished = .ok finished')
    (hfinished : index.Finished path finished) : index.Finished path finished' := by
  fun_induction explore index path siblings finished generalizing finished' with
  | case1 path finished =>
    obtain rfl := Except.ok.inj h
    exact hfinished
  | case2 => cases h
  | case3 path c siblings finished hc hknown ih => exact ih h hfinished
  | case4 => cases h
  | case5 => cases h
  | case6 path c siblings finished hc hknown children listed hlt below hbelow ihbelow ih =>
    have hentered := hfinished.enter (mt Std.HashSet.contains_iff_mem.2 hknown)
    obtain ⟨-, -, hchildren⟩ := explore_ok hbelow hfinished.settled
    exact ih h ((ihbelow hbelow hentered).leave hc listed hchildren)

/-! ## The two searches -/

theorem Finished.explorePaths_cons {index : ChildIndex} {path : List Identifier}
    {finished : Std.HashSet Identifier} (h : index.Finished path finished) {c : Identifier}
    (hc : c ∈ finished) (siblings : List Identifier) :
    explorePaths index path (c :: siblings) = explorePaths index path siblings := by
  refine explorePaths_cons_of_settled (h.settled c hc) ?_ siblings
  intro j hj
  exact h.off_path j (h.mem_of_reflTransGen hc hj)

/-- The search ends like the plain one. -/
theorem map_explore {index : ChildIndex} {path siblings : List Identifier}
    {finished : Std.HashSet Identifier} (h : index.Finished path finished) :
    (explore index path siblings finished).map (fun _ => ()) = explorePaths index path siblings := by
  fun_induction explore index path siblings finished with
  | case1 path finished =>
    rw [explorePaths]
    rfl
  | case2 path c siblings finished hc =>
    rw [explorePaths_cons, if_pos hc]
    rfl
  | case3 path c siblings finished hc hknown ih =>
    rw [ih h, h.explorePaths_cons (Std.HashSet.contains_iff_mem.1 hknown)]
  | case4 path c siblings finished hc hknown hnone =>
    rw [explorePaths_cons, if_neg hc]
    simp only [hnone]
    rfl
  | case5 path c siblings finished hc hknown children listed hlt obstacle hbelow ih =>
    have hentered := ih (h.enter (mt Std.HashSet.contains_iff_mem.2 hknown))
    rw [hbelow] at hentered
    rw [explorePaths_cons, if_neg hc]
    simp only [listed, ← hentered]
    rfl
  | case6 path c siblings finished hc hknown children listed hlt below hbelow ihbelow ih =>
    have henter := h.enter (mt Std.HashSet.contains_iff_mem.2 hknown)
    obtain ⟨-, -, hchildren⟩ := explore_ok hbelow h.settled
    have hentered := ihbelow henter
    rw [hbelow] at hentered
    rw [ih ((finished_of_explore hbelow henter).leave hc listed hchildren), explorePaths_cons,
      if_neg hc]
    simp only [listed, ← hentered]
    rfl

theorem exploreAll_eq_exploreAllPaths (index : ChildIndex) : ∀ l : List Node,
    exploreAll index l = exploreAllPaths index l
  | [] => rfl
  | n :: l => by
    have hsearch : (index.explore [n.identifier] n.children ∅).map (fun _ => ()) =
        index.explorePaths [n.identifier] n.children :=
      map_explore (.empty index [n.identifier])
    rw [exploreAll, exploreAllPaths, ← hsearch]
    cases index.explore [n.identifier] n.children ∅ with
    | error obstacle => rfl
    | ok finished => exact exploreAll_eq_exploreAllPaths index l

end ChildIndex

/-- What ends the plain searches from all nodes. -/
def findObstacleOnPaths? (nodes : List Node) : Option Obstacle :=
  match (ChildIndex.ofNodes nodes).exploreAllPaths nodes with
  | .error obstacle => some obstacle
  | .ok () => none

/-- Not to explore finished steps again changes nothing, whatever the nodes are. -/
theorem findObstacle?_eq_findObstacleOnPaths? (nodes : List Node) :
    findObstacle? nodes = findObstacleOnPaths? nodes := by
  rw [findObstacle?, findObstacleOnPaths?, ChildIndex.exploreAll_eq_exploreAllPaths]
  cases (ChildIndex.ofNodes nodes).exploreAllPaths nodes <;> rfl

end RolloutPlan
