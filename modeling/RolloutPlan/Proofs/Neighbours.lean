import RolloutPlan.Proofs.Layout

/-!
# The neighbours in a layout

When every visit under another one has been joined, a step that waits for nothing in its own service
waits for the frontier that its service hangs off, and no step has any other neighbours across services.

* `parents_stitch`: all parents of a step. `mem_children_stitch`: its children.
* `symmetric_layout`, `neighbour_mem_layout`, `nodup_parents_layout`, `nodup_children_layout`: the
  neighbours in a layout are a relation on its steps, each of them listed once.
* `filter_layout`: the part of a layout that belongs to one service.
-/

namespace RolloutPlan

set_option autoImplicit false

section Neighbours
variable {block : String → List Node} (hblock : ∀ group, IsBlock group (block group))
include hblock

/-! ## Steps on seams -/

/-- A step without parents in its block is among the roots of its own service, and of no other. -/
theorem mem_rootsIn_iff {group group' : String} {n : Node} (hn : n ∈ block group) :
    n.identifier ∈ rootsIn block group' ↔ group' = group ∧ n.parents = [] := by
  constructor
  · intro h
    have hgroup := serviceGroup_of_mem_rootsIn hblock h
    rw [(hblock _).serviceGroup_eq n hn] at hgroup
    subst hgroup
    obtain ⟨m, hm, hmn, hroot⟩ := mem_rootsIn.1 h
    rw [eq_of_identifier_eq (hblock _).nodup hm hn hmn] at hroot
    exact ⟨rfl, hroot⟩
  · rintro ⟨rfl, hroot⟩
    exact mem_rootsIn.2 ⟨n, hn, rfl, hroot⟩

variable {V W : List Visit} (hV : Preordered V)

omit hblock in
theorem block_subset {v : Visit} (hv : v ∈ V) {n : Node} (hn : n ∈ block v.group) :
    n.identifier ∈ (blocks block V).map Node.identifier :=
  List.mem_map_of_mem (mem_blocks.2 ⟨v, hv, hn⟩)

omit hblock in
theorem mem_blocks_of_mem_frontier {above : List String} {i : Identifier}
    (h : i ∈ frontier block V above) : ∃ n ∈ blocks block V, n.identifier = i ∧ n.children = [] := by
  cases above with
  | nil => exact absurd h List.not_mem_nil
  | cons p ancestors =>
    obtain ⟨⟨n, hn, hi, hleaf⟩, _⟩ := mem_frontier.1 h
    exact ⟨n, hn, hi, List.isEmpty_iff.1 hleaf⟩

/-! ## Parents and children -/

omit hblock in
theorem children_stitch_seams (n : Node) : (n.stitch (W.map (seamOf block V))).children =
    n.children ++ W.flatMap fun w =>
      if n.identifier ∈ frontier block V w.above then rootsIn block w.group else [] := by
  simp only [Node.stitch, List.flatMap_map]
  rfl

omit hblock in
theorem parents_stitch_seams (n : Node) : (n.stitch (W.map (seamOf block V))).parents =
    n.parents ++ W.flatMap fun w =>
      if n.identifier ∈ rootsIn block w.group then frontier block V w.above else [] := by
  simp only [Node.stitch, List.flatMap_map]
  rfl

variable (hW : JoinedBut [] V W)
include hW

omit hblock in
theorem mem_joined {w : Visit} : w ∈ W ↔ w ∈ V ∧ w.above ≠ [] := by
  rw [hW.mem_iff]
  simp

include hV in
/-- A step that waits for nothing in its own service waits for the frontier that the service hangs
off. -/
theorem parents_stitch {v : Visit} (hv : v ∈ V) {n : Node} (hn : n ∈ block v.group) :
    (n.stitch (W.map (seamOf block V))).parents =
      if n.parents = [] then frontier block V v.above else n.parents := by
  simp only [parents_stitch_seams, mem_rootsIn_iff hblock hn]
  by_cases hroot : n.parents = []
  · simp only [hroot, and_true, if_true, List.nil_append]
    by_cases hvW : v ∈ W
    · exact flatMap_ite_eq (hW.nodup_groups hV) hvW
    · -- only the root of a sub-tree is not joined, and it hangs off nothing
      have habove : v.above = [] := by
        by_contra hne
        exact hvW ((mem_joined hW).2 ⟨hv, hne⟩)
      rw [habove, frontier, List.flatMap_eq_nil_iff]
      intro w hw
      refine if_neg fun hgroup => hvW ?_
      rwa [← hV.eq_of_group_eq ((mem_joined hW).1 hw).1 hv hgroup]
  · simp [hroot]

omit hblock in
/-- A step comes before others of its service and, when it is on a frontier, before the roots of the
services that hang off the frontier. -/
theorem mem_children_stitch {n : Node} {j : Identifier} :
    j ∈ (n.stitch (W.map (seamOf block V))).children ↔ j ∈ n.children ∨
      ∃ w ∈ V, n.identifier ∈ frontier block V w.above ∧ j ∈ rootsIn block w.group := by
  rw [Node.mem_stitch_children]
  apply or_congr_right
  constructor
  · rintro ⟨z, hz, hleaf, hroot⟩
    obtain ⟨w, hw, rfl⟩ := List.mem_map.1 hz
    exact ⟨w, ((mem_joined hW).1 hw).1, hleaf, hroot⟩
  · rintro ⟨w, hw, hleaf, hroot⟩
    refine ⟨seamOf block V w, List.mem_map_of_mem ((mem_joined hW).2 ⟨hw, ?_⟩), hleaf, hroot⟩
    intro habove
    rw [habove] at hleaf
    exact List.not_mem_nil hleaf

omit hW in
include hV in
theorem filter_layout {v : Visit} (hv : v ∈ V) :
    (layout block V W).filter (fun n => n.identifier.serviceGroup = v.group) =
      (block v.group).map (Node.stitch (W.map (seamOf block V))) := by
  rw [layout, List.filter_map, ← filter_blocks hblock hV.nodup hv]
  rfl

omit hblock hW in
theorem mem_layout {m : Node} : m ∈ layout block V W ↔
    ∃ v ∈ V, ∃ n ∈ block v.group, n.stitch (W.map (seamOf block V)) = m := by
  simp only [layout, List.mem_map, mem_blocks]
  constructor
  · rintro ⟨n, ⟨v, hv, hn⟩, rfl⟩
    exact ⟨v, hv, n, hn, rfl⟩
  · rintro ⟨v, hv, n, hn, rfl⟩
    exact ⟨n, ⟨v, hv, hn⟩, rfl⟩

omit hW in
theorem symmetric_blocks {m n : Node} (hm : m ∈ blocks block V) (hn : n ∈ blocks block V) :
    m.identifier ∈ n.children ↔ n.identifier ∈ m.parents := by
  obtain ⟨u, hu, hm⟩ := mem_blocks.1 hm
  obtain ⟨v, hv, hn⟩ := mem_blocks.1 hn
  have hgroup : ∀ {w : Visit} {i : Identifier}, i ∈ (block w.group).map Node.identifier →
      i.serviceGroup = w.group := by
    intro w i hi
    obtain ⟨x, hx, rfl⟩ := List.mem_map.1 hi
    exact (hblock _).serviceGroup_eq x hx
  by_cases huv : u.group = v.group
  · rw [huv] at hm
    exact (hblock _).symmetric m hm n hn
  · constructor
    · intro hchild
      have := hgroup ((hblock _).children_mem n hn _ hchild)
      rw [(hblock _).serviceGroup_eq m hm] at this
      exact absurd this huv
    · intro hparent
      have := hgroup ((hblock _).parents_mem m hm _ hparent)
      rw [(hblock _).serviceGroup_eq n hn] at this
      exact absurd this.symm huv

omit hW in
/-- Children and parents are the two directions of one relation. -/
theorem symmetric_layout {m n : Node} (hm : m ∈ layout block V W) (hn : n ∈ layout block V W) :
    m.identifier ∈ n.children ↔ n.identifier ∈ m.parents := by
  obtain ⟨m, hmV, rfl⟩ := List.mem_map.1 hm
  obtain ⟨n, hnV, rfl⟩ := List.mem_map.1 hn
  rw [Node.mem_stitch_children, Node.mem_stitch_parents, Node.stitch_identifier,
    Node.stitch_identifier]
  apply or_congr (symmetric_blocks hblock hmV hnV)
  exact exists_congr fun z => and_congr_right fun _ => and_comm

include hV in
theorem neighbour_mem_layout {m : Node} (hm : m ∈ layout block V W) {j : Identifier}
    (hj : j ∈ m.children ∨ j ∈ m.parents) : j ∈ (layout block V W).map Node.identifier := by
  obtain ⟨v, hv, n, hn, rfl⟩ := mem_layout.1 hm
  rw [layout, Node.map_identifier_stitch]
  have hown : j ∈ (block v.group).map Node.identifier →
      j ∈ (blocks block V).map Node.identifier := by
    intro h
    obtain ⟨x, hx, rfl⟩ := List.mem_map.1 h
    exact block_subset hv hx
  rcases hj with hj | hj
  · rw [mem_children_stitch hW] at hj
    rcases hj with hj | ⟨w, hw, _, hj⟩
    · exact hown ((hblock _).children_mem n hn j hj)
    · obtain ⟨x, hx, rfl, _⟩ := mem_rootsIn.1 hj
      exact block_subset hw hx
  · rw [parents_stitch hblock hV hW hv hn] at hj
    split_ifs at hj
    · obtain ⟨x, hx, rfl, _⟩ := mem_blocks_of_mem_frontier hj
      exact List.mem_map_of_mem hx
    · exact hown ((hblock _).parents_mem n hn j hj)

include hV in
theorem nodup_parents_layout {m : Node} (hm : m ∈ layout block V W) : m.parents.Nodup := by
  obtain ⟨v, hv, n, hn, rfl⟩ := mem_layout.1 hm
  rw [parents_stitch hblock hV hW hv hn]
  split_ifs
  · exact nodup_frontier hblock hV.nodup v.above
  · exact (hblock _).parents_nodup n hn

omit hW in
include hV in
theorem children_eq_nil_of_mem_frontier {n : Node} (hn : n ∈ blocks block V) {above : List String}
    (h : n.identifier ∈ frontier block V above) : n.children = [] := by
  obtain ⟨x, hx, hxn, hempty⟩ := mem_blocks_of_mem_frontier h
  rwa [eq_of_identifier_eq (nodup_blocks hblock hV.nodup) hx hn hxn] at hempty

include hV in
theorem nodup_children_layout {m : Node} (hm : m ∈ layout block V W) : m.children.Nodup := by
  obtain ⟨n, hn, rfl⟩ := List.mem_map.1 hm
  rw [children_stitch_seams]
  refine List.nodup_append.2 ⟨?_, ?_, ?_⟩
  · obtain ⟨v, _, hn⟩ := mem_blocks.1 hn
    exact (hblock _).children_nodup n hn
  · -- the roots of different services are different
    rw [List.nodup_flatMap]
    constructor
    · intro w _
      split_ifs
      · exact nodup_rootsIn hblock w.group
      · exact .nil
    · apply (List.pairwise_map.1 (hW.nodup_groups hV)).imp
      intro u w huw i hi hi'
      have hu : i ∈ rootsIn block u.group := (List.mem_ite_nil_right.1 hi).2
      have hw : i ∈ rootsIn block w.group := (List.mem_ite_nil_right.1 hi').2
      exact huw ((serviceGroup_of_mem_rootsIn hblock hu).symm.trans
        (serviceGroup_of_mem_rootsIn hblock hw))
  · intro i hi j hj hij
    obtain ⟨w, _, hj⟩ := List.mem_flatMap.1 hj
    split_ifs at hj with hfront
    · rw [children_eq_nil_of_mem_frontier hblock hV hn hfront] at hi
      exact List.not_mem_nil hi
    · exact List.not_mem_nil hj

end Neighbours

end RolloutPlan
