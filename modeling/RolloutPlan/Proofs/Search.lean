import Mathlib.Data.List.Chain
import Mathlib.Data.List.Nodup
import Mathlib.Logic.Relation
import RolloutPlan.Graph.Cycle

/-!
# What the search for cycles finds

A search ends at an obstacle that is really there, and without an obstacle every step that was explored
has been settled: everything that comes after it is listed, and nothing comes after itself.

* `LeadsTo`: the relation of a step to its children. `IsLasso`: a path that runs into itself.
* `ChildIndex.Settled`: everything after a step is listed, to the end.
* `Obstacle.Stands`: what an obstacle says about the children.
* `ChildIndex.explore_ok`, `ChildIndex.explore_error`: one search from the end of a path.
* `ChildIndex.getElem?_ofNodes`: whose children are listed when an identifier is repeated.
* `settled_of_findObstacle?`, `acyclic_of_findObstacle?`, `stands_of_findObstacle?`: the searches from all
  nodes.
-/

namespace RolloutPlan

set_option autoImplicit false

/-- A step has another one among its children. -/
def LeadsTo (nodes : List Node) (i j : Identifier) : Prop :=
  ∃ n ∈ nodes, n.identifier = i ∧ j ∈ n.children

/-! ## Lassos -/

/-- A path without repetitions, and then a step that stands in it before. -/
def IsLasso (R : Identifier → Identifier → Prop) (path : List Identifier) : Prop :=
  ∃ first last, path = first ++ [last] ∧ last ∈ first ∧ first.Nodup ∧ path.IsChain R

/-- The part of a path from the first occurrence of its last step. -/
def closedPart (path : List Identifier) : List Identifier :=
  path.dropWhile fun i => path.getLast? ≠ some i

namespace IsLasso
variable {R : Identifier → Identifier → Prop} {path : List Identifier}

theorem exists_split (h : IsLasso R path) : ∃ lead round last,
    path = lead ++ last :: (round ++ [last]) ∧ closedPart path = last :: (round ++ [last]) := by
  obtain ⟨first, last, rfl, hlast, hnodup, _⟩ := h
  obtain ⟨lead, round, rfl⟩ := List.append_of_mem hlast
  refine ⟨lead, round, last, by simp, ?_⟩
  have hlead : ∀ i ∈ lead, i ≠ last := by
    rw [List.nodup_append] at hnodup
    intro i hi
    exact hnodup.2.2 i hi last List.mem_cons_self
  unfold closedPart
  rw [List.getLast?_concat, List.append_assoc, List.dropWhile_append_of_pos]
  · simp
  · intro i hi
    simpa using (hlead i hi).symm

/-- The steps of the closed part come after each other all the way round. -/
theorem exists_round (h : IsLasso R path) : closedPart path ≠ [] ∧
    ∃ last, ∀ i ∈ closedPart path, Relation.ReflTransGen R last i ∧ Relation.TransGen R i last := by
  obtain ⟨lead, round, last, hpath, hclosed⟩ := h.exists_split
  obtain ⟨_, _, _, _, _, hchain⟩ := h
  have hround : (last :: (round ++ [last])).Pairwise (Relation.TransGen R) := by
    rw [hpath] at hchain
    exact (hchain.right_of_append.imp fun _ _ => Relation.TransGen.single).pairwise
  rw [List.pairwise_cons, List.pairwise_append] at hround
  obtain ⟨hafter, _, _, hbefore⟩ := hround
  have hself : Relation.TransGen R last last := hafter last (by simp)
  rw [hclosed]
  refine ⟨List.cons_ne_nil _ _, last, ?_⟩
  intro i hi
  rw [List.mem_cons, List.mem_append, List.mem_singleton] at hi
  rcases hi with rfl | hi | rfl
  · exact ⟨.refl, hself⟩
  · exact ⟨(hafter i (List.mem_append_left _ hi)).to_reflTransGen, hbefore i hi last (by simp)⟩
  · exact ⟨.refl, hself⟩

theorem not_acyclic (h : IsLasso R path) : ∃ i, Relation.TransGen R i i := by
  obtain ⟨hne, last, hround⟩ := h.exists_round
  obtain ⟨i, hi⟩ := List.exists_mem_of_ne_nil _ hne
  exact ⟨i, (hround i hi).2.trans_left (hround i hi).1⟩

end IsLasso

/-! ## Obstacles and settled steps -/

namespace ChildIndex

/-- A listed step has another one among its children. -/
def LeadsTo (index : ChildIndex) (i j : Identifier) : Prop :=
  ∃ children, index[i]? = some children ∧ j ∈ children

/-- Everything that comes after a step is listed, to the end. -/
inductive Settled (index : ChildIndex) : Identifier → Prop
  | intro {i : Identifier} {children : List Identifier} : index[i]? = some children →
      (∀ j ∈ children, Settled index j) → Settled index i

theorem Settled.acyclic {index : ChildIndex} {i : Identifier} (h : index.Settled i) :
    ¬ Relation.TransGen index.LeadsTo i i := by
  induction h with
  | @intro i children hi _ ih =>
    intro hcycle
    obtain ⟨j, hj, hback⟩ := Relation.TransGen.head'_iff.1 hcycle
    obtain ⟨children', hi', hmem⟩ := hj
    obtain rfl := Option.some.inj (hi.symm.trans hi')
    exact ih j hmem (.tail' hback ⟨children, hi, hmem⟩)

/-- A path can be extended by some steps, if they are not on it. -/
structure Trail (index : ChildIndex) (path siblings : List Identifier) : Prop where
  nonempty : path ≠ []
  nodup : path.Nodup
  chain : ∀ c ∈ siblings, (path ++ [c]).IsChain index.LeadsTo

namespace Trail
variable {index : ChildIndex} {path siblings : List Identifier} {c : Identifier}

theorem tail (h : index.Trail path (c :: siblings)) : index.Trail path siblings :=
  ⟨h.nonempty, h.nodup, fun d hd => h.chain d (List.mem_cons_of_mem c hd)⟩

theorem descend (h : index.Trail path (c :: siblings)) (fresh : c ∉ path)
    {children : List Identifier} (listed : index[c]? = some children) :
    index.Trail (path ++ [c]) children := by
  have hchain := h.chain c List.mem_cons_self
  refine ⟨by simp, ?_, ?_⟩
  · refine List.nodup_append.2 ⟨h.nodup, by simp, ?_⟩
    rintro i hi d hd rfl
    exact fresh (List.mem_singleton.1 hd ▸ hi)
  · intro d hd
    refine List.isChain_append.2 ⟨hchain, .singleton d, ?_⟩
    intro x hx y hy
    rw [List.getLast?_concat] at hx
    obtain rfl := Option.some.inj hx
    obtain rfl := Option.some.inj hy
    exact ⟨children, listed, hd⟩

theorem exists_leadsTo (h : index.Trail path (c :: siblings)) : ∃ b, index.LeadsTo b c := by
  have hchain := h.chain c List.mem_cons_self
  exact ⟨_, (List.isChain_append.1 hchain).2.2 _ (List.getLast?_eq_some_getLast h.nonempty) c rfl⟩

end Trail

end ChildIndex

/-- What an obstacle says about the children. -/
def Obstacle.Stands (index : ChildIndex) : Obstacle → Prop
  | .cycle path => IsLasso index.LeadsTo path
  | .missing c => (∃ b, index.LeadsTo b c) ∧ index[c]? = none

/-! ## The search -/

namespace ChildIndex

/-- The search without the reason why it ends. -/
theorem explore_cons (index : ChildIndex) (path siblings : List Identifier) (c : Identifier)
    (finished : Std.HashSet Identifier) : explore index path (c :: siblings) finished =
      if c ∈ path then .error (.cycle (path ++ [c]))
      else if finished.contains c then explore index path siblings finished
      else match index[c]? with
        | none => .error (.missing c)
        | some children =>
          match explore index (path ++ [c]) children finished with
          | .error obstacle => .error obstacle
          | .ok below => explore index path siblings (below.insert c) := by
  rw [explore]
  split_ifs
  · rfl
  · rfl
  · split
    · rename_i hnone
      rw [hnone]
    · rename_i children hsome
      cases hbelow : explore index (path ++ [c]) children finished <;> simp only [hsome, hbelow]

/-- Without an obstacle everything that is explored is settled, and nothing is forgotten. -/
theorem explore_ok {index : ChildIndex} {path siblings : List Identifier}
    {finished finished' : Std.HashSet Identifier}
    (h : explore index path siblings finished = .ok finished')
    (hsettled : ∀ i ∈ finished, index.Settled i) :
    (∀ i ∈ finished', index.Settled i) ∧ (∀ i ∈ finished, i ∈ finished') ∧
      ∀ i ∈ siblings, i ∈ finished' := by
  fun_induction explore index path siblings finished generalizing finished' with
  | case1 path finished =>
    obtain rfl := Except.ok.inj h
    exact ⟨hsettled, fun _ hi => hi, by simp⟩
  | case2 => cases h
  | case3 path c siblings finished hc hknown ih =>
    obtain ⟨hall, hmono, hmem⟩ := ih h hsettled
    refine ⟨hall, hmono, List.forall_mem_cons.2 ⟨?_, hmem⟩⟩
    exact hmono c (Std.HashSet.contains_iff_mem.1 hknown)
  | case4 => cases h
  | case5 => cases h
  | case6 path c siblings finished hc hknown children listed hlt below hbelow ihbelow ih =>
    obtain ⟨hall, hmono, hmem⟩ := ihbelow hbelow hsettled
    have hc : index.Settled c := .intro listed fun j hj => hall j (hmem j hj)
    have hadded : ∀ i ∈ below.insert c, index.Settled i := by
      intro i hi
      rcases Std.HashSet.mem_insert.1 hi with hi | hi
      · exact eq_of_beq hi ▸ hc
      · exact hall i hi
    obtain ⟨hall', hmono', hmem'⟩ := ih h hadded
    refine ⟨hall', ?_, List.forall_mem_cons.2 ⟨?_, hmem'⟩⟩
    · intro i hi
      exact hmono' i (Std.HashSet.mem_insert.2 (.inr (hmono i hi)))
    · exact hmono' c (Std.HashSet.mem_insert.2 (.inl BEq.rfl))

theorem explore_error {index : ChildIndex} {path siblings : List Identifier}
    {finished : Std.HashSet Identifier} {obstacle : Obstacle}
    (h : explore index path siblings finished = .error obstacle)
    (htrail : index.Trail path siblings) : obstacle.Stands index := by
  fun_induction explore index path siblings finished with
  | case1 => cases h
  | case2 path c siblings finished hc =>
    obtain rfl := Except.error.inj h
    exact ⟨path, c, rfl, hc, htrail.nodup, htrail.chain c List.mem_cons_self⟩
  | case3 path c siblings finished hc hknown ih => exact ih h htrail.tail
  | case4 path c siblings finished hc hknown hnone =>
    obtain rfl := Except.error.inj h
    exact ⟨htrail.exists_leadsTo, hnone⟩
  | case5 path c siblings finished hc hknown children listed hlt below hbelow ih =>
    obtain rfl := Except.error.inj h
    exact ih hbelow (htrail.descend hc listed)
  | case6 path c siblings finished hc hknown children listed hlt below hbelow ihbelow ih =>
    exact ih h htrail.tail

theorem exploreAll_ok {index : ChildIndex} : ∀ {l : List Node}, exploreAll index l = .ok () →
    ∀ n ∈ l, ∀ c ∈ n.children, index.Settled c
  | [], _, n, hn => absurd hn List.not_mem_nil
  | n :: l, h, m, hm => by
    rw [exploreAll] at h
    split at h
    · cases h
    · rename_i finished hn
      rcases List.mem_cons.1 hm with rfl | hm
      · obtain ⟨hall, _, hmem⟩ := explore_ok hn (by simp)
        exact fun c hc => hall c (hmem c hc)
      · exact exploreAll_ok h m hm

theorem exploreAll_error {index : ChildIndex} {obstacle : Obstacle} : ∀ {l : List Node},
    exploreAll index l = .error obstacle → (∀ n ∈ l, index[n.identifier]? = some n.children) →
      obstacle.Stands index
  | [], h, _ => by
    rw [exploreAll] at h
    cases h
  | n :: l, h, hl => by
    rw [exploreAll] at h
    split at h
    · rename_i o hn
      obtain rfl := Except.error.inj h
      refine explore_error hn ⟨List.cons_ne_nil _ _, by simp, ?_⟩
      intro c hc
      exact List.isChain_pair.2 ⟨n.children, hl n List.mem_cons_self, hc⟩
    · exact exploreAll_error h fun m hm => hl m (List.mem_cons_of_mem n hm)

/-! ## The index of some nodes -/

/-- Of the nodes that have an identifier the last one counts. -/
theorem getElem?_ofNodes (nodes : List Node) (i : Identifier) : (ofNodes nodes)[i]? =
    (nodes.reverse.find? fun n => n.identifier == i).map Node.children := by
  induction nodes using List.reverseRecOn with
  | nil => simp
  | append_singleton l n ih =>
    rw [ofNodes_concat, Std.HashMap.getElem?_insert, List.reverse_concat, List.find?_cons, ih]
    cases n.identifier == i <;> rfl

theorem getElem?_ofNodes_eq_some_iff {nodes : List Node}
    (h : (nodes.map Node.identifier).Nodup) {i : Identifier} {children : List Identifier} :
    (ofNodes nodes)[i]? = some children ↔
      ∃ n ∈ nodes, n.identifier = i ∧ n.children = children := by
  have hfound : ∀ n, nodes.reverse.find? (fun n => n.identifier == i) = some n →
      n ∈ nodes ∧ n.identifier = i := by
    intro n hn
    have hi := List.find?_some hn
    exact ⟨List.mem_reverse.1 (List.mem_of_find?_eq_some hn), by simpa using hi⟩
  simp only [getElem?_ofNodes, Option.map_eq_some_iff]
  constructor
  · rintro ⟨n, hn, hchildren⟩
    obtain ⟨hmem, hi⟩ := hfound n hn
    exact ⟨n, hmem, hi, hchildren⟩
  · rintro ⟨n, hmem, hi, hchildren⟩
    have hsome : (nodes.reverse.find? fun n => n.identifier == i).isSome :=
      List.find?_isSome.2 ⟨n, List.mem_reverse.2 hmem, by simp [hi]⟩
    obtain ⟨m, hm⟩ := Option.isSome_iff_exists.1 hsome
    obtain ⟨hmem', hi'⟩ := hfound m hm
    obtain rfl : m = n := List.inj_on_of_nodup_map h hmem' hmem (hi'.trans hi.symm)
    exact ⟨m, hm, hchildren⟩

theorem leadsTo_ofNodes {nodes : List Node} (h : (nodes.map Node.identifier).Nodup) :
    (ofNodes nodes).LeadsTo = RolloutPlan.LeadsTo nodes := by
  funext i j
  simp only [LeadsTo, RolloutPlan.LeadsTo, getElem?_ofNodes_eq_some_iff h, eq_iff_iff]
  constructor
  · rintro ⟨_, ⟨n, hn, hi, rfl⟩, hj⟩
    exact ⟨n, hn, hi, hj⟩
  · rintro ⟨n, hn, hi, hj⟩
    exact ⟨_, ⟨n, hn, hi, rfl⟩, hj⟩

end ChildIndex

/-! ## The searches from all nodes -/

/-- Without an obstacle every child is settled. -/
theorem settled_of_findObstacle? {nodes : List Node} (h : findObstacle? nodes = none) :
    ∀ n ∈ nodes, ∀ c ∈ n.children, (ChildIndex.ofNodes nodes).Settled c := by
  unfold findObstacle? at h
  split at h
  · cases h
  · exact ChildIndex.exploreAll_ok ‹_›

section
variable {nodes : List Node} (hnodup : (nodes.map Node.identifier).Nodup)
include hnodup

/-- Without an obstacle no step comes after itself. -/
theorem acyclic_of_findObstacle? (h : findObstacle? nodes = none) (i : Identifier) :
    ¬ Relation.TransGen (LeadsTo nodes) i i := by
  intro hcycle
  obtain ⟨_, _, n, hn, _, hi⟩ := Relation.TransGen.tail'_iff.1 hcycle
  rw [← ChildIndex.leadsTo_ofNodes hnodup] at hcycle
  exact (settled_of_findObstacle? h n hn i hi).acyclic hcycle

theorem stands_of_findObstacle? {obstacle : Obstacle} (h : findObstacle? nodes = some obstacle) :
    obstacle.Stands (ChildIndex.ofNodes nodes) := by
  unfold findObstacle? at h
  split at h
  · obtain rfl := Option.some.inj h
    refine ChildIndex.exploreAll_error ‹_› ?_
    intro n hn
    exact (ChildIndex.getElem?_ofNodes_eq_some_iff hnodup).2 ⟨n, hn, rfl, rfl⟩
  · cases h

theorem isLasso_of_findObstacle? {path : List Identifier}
    (h : findObstacle? nodes = some (.cycle path)) : IsLasso (LeadsTo nodes) path := by
  rw [← ChildIndex.leadsTo_ofNodes hnodup]
  exact stands_of_findObstacle? hnodup h

theorem missing_of_findObstacle? {i : Identifier} (h : findObstacle? nodes = some (.missing i)) :
    (∃ n ∈ nodes, i ∈ n.children) ∧ i ∉ nodes.map Node.identifier := by
  obtain ⟨⟨b, hb⟩, hnone⟩ := stands_of_findObstacle? hnodup h
  rw [ChildIndex.leadsTo_ofNodes hnodup] at hb
  obtain ⟨n, hn, _, hi⟩ := hb
  refine ⟨⟨n, hn, hi⟩, ?_⟩
  intro hmem
  obtain ⟨m, hm, rfl⟩ := List.mem_map.1 hmem
  rw [(ChildIndex.getElem?_ofNodes_eq_some_iff hnodup).2 ⟨m, hm, rfl, rfl⟩] at hnone
  cases hnone

end

end RolloutPlan
