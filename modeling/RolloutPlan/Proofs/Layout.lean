import Mathlib.Data.Nat.Init
import Mathlib.Order.Nat
import RolloutPlan.Graph.Node
import RolloutPlan.Proofs.Itinerary
import RolloutPlan.Proofs.Sorted

/-!
# How blocks of nodes are laid out and joined

A rollout graph consists of a block of nodes for each service, in the order of the visits, and of seams:
a service that stands under another one is joined to what came before it. This is said here without
running anything, for blocks of any origin.

* `IsBlock`: the nodes of one service, with neighbours among themselves only.
* `isOvertaken`, `frontier`: the steps that the services under a service hang off.
* `Seam`, `Node.stitch`: everything on one side of a seam comes before everything on the other.
* `layout`: the joined blocks.
* `frontier_append`, `map_seamOf_append`: later visits leave frontiers and seams as they are.
-/

namespace RolloutPlan

set_option autoImplicit false

/-! ## Blocks -/

/-- The nodes of one service. They have neighbours among themselves only. -/
structure IsBlock (group : String) (nodes : List Node) : Prop where
  serviceGroup_eq : ∀ n ∈ nodes, n.identifier.serviceGroup = group
  increasing : (nodes.map Node.identifier).Pairwise (· < ·)
  children_mem : ∀ n ∈ nodes, ∀ j ∈ n.children, j ∈ nodes.map Node.identifier
  parents_mem : ∀ n ∈ nodes, ∀ j ∈ n.parents, j ∈ nodes.map Node.identifier
  children_nodup : ∀ n ∈ nodes, n.children.Nodup
  parents_nodup : ∀ n ∈ nodes, n.parents.Nodup
  symmetric : ∀ m ∈ nodes, ∀ n ∈ nodes, m.identifier ∈ n.children ↔ n.identifier ∈ m.parents

theorem IsBlock.nil (group : String) : IsBlock group [] := by
  constructor <;> simp

theorem IsBlock.nodup {group : String} {nodes : List Node} (h : IsBlock group nodes) :
    (nodes.map Node.identifier).Nodup :=
  Sorted.nodup_of_pairwise h.increasing

theorem eq_of_identifier_eq {nodes : List Node} (h : (nodes.map Node.identifier).Nodup) {m n : Node}
    (hm : m ∈ nodes) (hn : n ∈ nodes) (heq : m.identifier = n.identifier) : m = n :=
  List.inj_on_of_nodup_map h hm hn heq

/-! ## Seams -/

/-- Every step on the one side comes before every step on the other. -/
structure Seam where
  leaves : List Identifier
  roots : List Identifier

/-- A node with the neighbours that it has across some seams. -/
def Node.stitch (seams : List Seam) (n : Node) : Node where
  identifier := n.identifier
  children := n.children ++ seams.flatMap fun z => if n.identifier ∈ z.leaves then z.roots else []
  parents := n.parents ++ seams.flatMap fun z => if n.identifier ∈ z.roots then z.leaves else []

namespace Node

@[simp] theorem stitch_identifier (seams : List Seam) (n : Node) :
    (n.stitch seams).identifier = n.identifier := rfl

@[simp] theorem identifier_comp_stitch (seams : List Seam) : identifier ∘ stitch seams = identifier := rfl

theorem map_identifier_stitch (seams : List Seam) (nodes : List Node) :
    (nodes.map (stitch seams)).map identifier = nodes.map identifier := by
  simp

theorem stitch_append (seams more : List Seam) (n : Node) :
    n.stitch (seams ++ more) = (n.stitch seams).stitch more := by
  unfold stitch
  simp only [List.flatMap_append, List.append_assoc]

/-- Seams on which a step does not lie leave its node as it is. -/
theorem stitch_eq_self {seams : List Seam} {n : Node}
    (h : ∀ z ∈ seams, n.identifier ∉ z.leaves ∧ n.identifier ∉ z.roots) : n.stitch seams = n := by
  have hleaves : (seams.flatMap fun z => if n.identifier ∈ z.leaves then z.roots else []) = [] := by
    rw [List.flatMap_eq_nil_iff]
    intro z hz
    rw [if_neg (h z hz).1]
  have hroots : (seams.flatMap fun z => if n.identifier ∈ z.roots then z.leaves else []) = [] := by
    rw [List.flatMap_eq_nil_iff]
    intro z hz
    rw [if_neg (h z hz).2]
  simp [stitch, hleaves, hroots]

@[simp] theorem mem_stitch_children {seams : List Seam} {n : Node} {j : Identifier} :
    j ∈ (n.stitch seams).children ↔
      j ∈ n.children ∨ ∃ z ∈ seams, n.identifier ∈ z.leaves ∧ j ∈ z.roots := by
  unfold stitch
  simp only [List.mem_append, List.mem_flatMap]
  refine or_congr_right (exists_congr fun z => and_congr_right fun _ => ?_)
  split_ifs with h <;> simp [h]

@[simp] theorem mem_stitch_parents {seams : List Seam} {n : Node} {j : Identifier} :
    j ∈ (n.stitch seams).parents ↔
      j ∈ n.parents ∨ ∃ z ∈ seams, n.identifier ∈ z.roots ∧ j ∈ z.leaves := by
  unfold stitch
  simp only [List.mem_append, List.mem_flatMap]
  refine or_congr_right (exists_congr fun z => and_congr_right fun _ => ?_)
  split_ifs with h <;> simp [h]

end Node

/-! ## Frontiers -/

section Layout
variable (block : String → List Node)

/-- The blocks of some visits one after the other. -/
def blocks (V : List Visit) : List Node := V.flatMap fun v => block v.group

/-- The steps of a service that wait for no step of their own service. -/
def rootsIn (group : String) : List Identifier := ((block group).filter Node.isRoot).map Node.identifier

/-- Whether a visit that is left before a service is entered hangs off a step, or would if the step
were still a leaf. The step is given by its service group, the service by what is above the services
under it. -/
def isOvertaken (V : List Visit) (p : String) (ancestors : List String) (group : String) : Bool :=
  V.any fun u => !(rootsIn block u.group).isEmpty && decide (u.group ∉ ancestors) &&
    decide (position V u.group < position V p) &&
    u.parent?.any fun q => decide (position V group ≤ position V q)

/-- The steps that the services under a service hang off. The service is the first one of those
above them. -/
def frontier (V : List Visit) : List String → List Identifier
  | [] => []
  | p :: ancestors =>
    ((blocks block V).filter fun n => n.isLeaf &&
      decide (position V n.identifier.serviceGroup ≤ position V p) &&
      !isOvertaken block V p ancestors n.identifier.serviceGroup).map Node.identifier

/-- The seam that joins a visit to what came before. -/
def seamOf (V : List Visit) (w : Visit) : Seam := ⟨frontier block V w.above, rootsIn block w.group⟩

/-- The blocks of some visits, some of which are joined to what came before. -/
def layout (V W : List Visit) : List Node := (blocks block V).map (Node.stitch (W.map (seamOf block V)))

variable {block}

theorem isOvertaken_iff {V : List Visit} {p : String} {ancestors : List String} {group : String} :
    isOvertaken block V p ancestors group ↔ ∃ u ∈ V, rootsIn block u.group ≠ [] ∧
      u.group ∉ ancestors ∧ position V u.group < position V p ∧
      ∃ q, u.parent? = some q ∧ position V group ≤ position V q := by
  simp only [isOvertaken, List.any_eq_true, Bool.and_eq_true, Bool.not_eq_true',
    List.isEmpty_eq_false_iff, decide_eq_true_eq, Option.any_eq_true, and_assoc]

theorem mem_frontier {V : List Visit} {p : String} {ancestors : List String} {i : Identifier} :
    i ∈ frontier block V (p :: ancestors) ↔
      (∃ n ∈ blocks block V, n.identifier = i ∧ n.isLeaf) ∧
      position V i.serviceGroup ≤ position V p ∧
      ¬ isOvertaken block V p ancestors i.serviceGroup := by
  simp only [frontier, List.mem_map, List.mem_filter, Bool.and_eq_true, decide_eq_true_eq,
    Bool.not_eq_true', Bool.not_eq_true]
  constructor
  · rintro ⟨n, ⟨hn, ⟨hleaf, hpos⟩, hused⟩, rfl⟩
    exact ⟨⟨n, hn, rfl, hleaf⟩, hpos, hused⟩
  · rintro ⟨⟨n, hn, rfl, hleaf⟩, hpos, hused⟩
    exact ⟨n, ⟨hn, ⟨hleaf, hpos⟩, hused⟩, rfl⟩

@[simp] theorem mem_rootsIn {group : String} {i : Identifier} :
    i ∈ rootsIn block group ↔ ∃ n ∈ block group, n.identifier = i ∧ n.parents = [] := by
  simp only [rootsIn, Node.isRoot, List.mem_map, List.mem_filter, List.isEmpty_iff]
  constructor
  · rintro ⟨n, ⟨hn, hroot⟩, rfl⟩
    exact ⟨n, hn, rfl, hroot⟩
  · rintro ⟨n, hn, rfl, hroot⟩
    exact ⟨n, ⟨hn, hroot⟩, rfl⟩

@[simp] theorem mem_blocks {V : List Visit} {n : Node} :
    n ∈ blocks block V ↔ ∃ v ∈ V, n ∈ block v.group := List.mem_flatMap

@[simp]
theorem blocks_append (V W : List Visit) : blocks block (V ++ W) = blocks block V ++ blocks block W :=
  List.flatMap_append

theorem blocks_snoc (V : List Visit) (v : Visit) :
    blocks block (V ++ [v]) = blocks block V ++ block v.group := by
  rw [blocks_append]
  simp [blocks]

variable (hblock : ∀ group, IsBlock group (block group))
include hblock

theorem group_mem_of_mem_blocks {V : List Visit} {n : Node} (hn : n ∈ blocks block V) :
    n.identifier.serviceGroup ∈ V.map Visit.group := by
  obtain ⟨v, hv, hn⟩ := mem_blocks.1 hn
  rw [(hblock _).serviceGroup_eq n hn]
  exact List.mem_map_of_mem hv

theorem serviceGroup_of_mem_rootsIn {group : String} {i : Identifier}
    (h : i ∈ rootsIn block group) : i.serviceGroup = group := by
  obtain ⟨n, hn, rfl, _⟩ := mem_rootsIn.1 h
  exact (hblock _).serviceGroup_eq n hn

theorem filter_blocks {V : List Visit} (hV : (V.map Visit.group).Nodup) {v : Visit} (hv : v ∈ V) :
    (blocks block V).filter (fun n => n.identifier.serviceGroup = v.group) = block v.group :=
  filter_flatMap_eq (fun u : Visit => (hblock u.group).serviceGroup_eq) hV hv

theorem nodup_blocks {V : List Visit} (hV : (V.map Visit.group).Nodup) :
    ((blocks block V).map Node.identifier).Nodup := by
  unfold blocks
  rw [List.map_flatMap, List.nodup_flatMap]
  constructor
  · intro v _
    exact (hblock _).nodup
  · apply (List.pairwise_map.1 hV).imp
    intro u v huv i hi hi'
    obtain ⟨n, hn, rfl⟩ := List.mem_map.1 hi
    obtain ⟨m, hm, hmn⟩ := List.mem_map.1 hi'
    rw [← (hblock _).serviceGroup_eq n hn, ← (hblock _).serviceGroup_eq m hm, hmn] at huv
    exact huv rfl

theorem nodup_frontier {V : List Visit} (hV : (V.map Visit.group).Nodup) (above : List String) :
    (frontier block V above).Nodup := by
  cases above with
  | nil => exact .nil
  | cons p ancestors => exact (nodup_blocks hblock hV).sublist (List.filter_sublist.map _)

theorem nodup_rootsIn (group : String) : (rootsIn block group).Nodup :=
  (hblock group).nodup.sublist (List.filter_sublist.map _)

omit hblock in
theorem position_lt_of_later {V W : List Visit} (hW : ((V ++ W).map Visit.group).Nodup) {p : String}
    (hp : p ∈ V.map Visit.group) {w : Visit} (hw : w ∈ W) :
    position V p < position (V ++ W) w.group := by
  rw [List.map_append, List.nodup_append] at hW
  have hnot : w.group ∉ V.map Visit.group := fun h => hW.2.2 _ h _ (List.mem_map_of_mem hw) rfl
  exact (position_lt_length.2 hp).trans_le (length_le_position hnot W)

omit hblock in
theorem isOvertaken_append {V W : List Visit} (hV : Preordered V)
    (hW : ((V ++ W).map Visit.group).Nodup) {p group : String} (hp : p ∈ V.map Visit.group)
    (hgroup : group ∈ V.map Visit.group) (ancestors : List String) :
    isOvertaken block (V ++ W) p ancestors group = isOvertaken block V p ancestors group := by
  rw [Bool.eq_iff_iff, isOvertaken_iff, isOvertaken_iff]
  constructor
  · rintro ⟨u, hu, hroots, hanc, hlt, q, hq, hle⟩
    rw [position_append hp] at hlt
    rcases List.mem_append.1 hu with hu | hu
    · have hqV := (hV.position_lt hu (List.mem_of_mem_head? hq)).1
      rw [position_append hgroup, position_append hqV] at hle
      rw [position_append (List.mem_map_of_mem hu)] at hlt
      exact ⟨u, hu, hroots, hanc, hlt, q, hq, hle⟩
    · have := position_lt_of_later hW hp hu
      omega
  · rintro ⟨u, hu, hroots, hanc, hlt, q, hq, hle⟩
    have hqV := (hV.position_lt hu (List.mem_of_mem_head? hq)).1
    refine ⟨u, List.mem_append_left _ hu, hroots, hanc, ?_, q, hq, ?_⟩
    · rwa [position_append (List.mem_map_of_mem hu), position_append hp]
    · rwa [position_append hgroup, position_append hqV]

/-- Later visits leave a frontier as it is. -/
theorem frontier_append {V W : List Visit} (hV : Preordered V)
    (hW : ((V ++ W).map Visit.group).Nodup) {p : String} (hp : p ∈ V.map Visit.group)
    (ancestors : List String) :
    frontier block (V ++ W) (p :: ancestors) = frontier block V (p :: ancestors) := by
  have hnew : (blocks block W).filter (fun n => n.isLeaf &&
      decide (position (V ++ W) n.identifier.serviceGroup ≤ position (V ++ W) p) &&
      !isOvertaken block (V ++ W) p ancestors n.identifier.serviceGroup) = [] := by
    rw [List.filter_eq_nil_iff]
    intro n hn
    obtain ⟨w, hw, hn⟩ := mem_blocks.1 hn
    have hlt := position_lt_of_later hW hp hw
    rw [(hblock _).serviceGroup_eq n hn, position_append hp]
    simp [Nat.not_le.2 hlt]
  simp only [frontier]
  rw [blocks_append, List.filter_append, hnew, List.append_nil]
  congr 1
  apply List.filter_congr
  intro n hn
  have hgroup := group_mem_of_mem_blocks hblock hn
  rw [isOvertaken_append hV hW hp hgroup, position_append hp, position_append hgroup]

/-- Later visits leave the seams of earlier ones as they are. -/
theorem map_seamOf_append {V U W : List Visit} (hV : Preordered V)
    (hU : ((V ++ U).map Visit.group).Nodup) (hW : ∀ w ∈ W, w ∈ V ∧ w.above ≠ []) :
    W.map (seamOf block (V ++ U)) = W.map (seamOf block V) := by
  apply List.map_congr_left
  intro w hw
  obtain ⟨hwV, hne⟩ := hW w hw
  obtain ⟨p, ancestors, habove⟩ := List.exists_cons_of_ne_nil hne
  have hp := (hV.position_lt hwV (habove ▸ List.mem_cons_self)).1
  rw [seamOf, seamOf, habove, frontier_append hblock hV hU hp]

/-! ## One more block, one more seam -/

theorem group_mem_of_mem_frontier {V : List Visit} {above : List String} {i : Identifier}
    (h : i ∈ frontier block V above) : i.serviceGroup ∈ V.map Visit.group := by
  cases above with
  | nil => exact absurd h List.not_mem_nil
  | cons p ancestors =>
    obtain ⟨⟨n, hn, rfl, _⟩, _⟩ := mem_frontier.1 h
    exact group_mem_of_mem_blocks hblock hn

theorem layout_snoc {V W : List Visit} {v : Visit} {branch : List String}
    (hV : Preordered (V ++ [v])) (hW : JoinedBut branch V W) :
    layout block (V ++ [v]) W = layout block V W ++ block v.group := by
  obtain ⟨hV₀, hnot, _⟩ := hV.of_snoc
  have hseams : W.map (seamOf block (V ++ [v])) = W.map (seamOf block V) :=
    map_seamOf_append hblock hV₀ hV.nodup fun w hw =>
      ⟨((hW.mem_iff w).1 hw).1, ((hW.mem_iff w).1 hw).2.1⟩
  have hnew : (block v.group).map (Node.stitch (W.map (seamOf block V))) = block v.group := by
    refine (List.map_congr_left ?_).trans (List.map_id _)
    intro n hn
    apply Node.stitch_eq_self
    intro z hz
    obtain ⟨w, hw, rfl⟩ := List.mem_map.1 hz
    have hgroup := (hblock _).serviceGroup_eq n hn
    constructor
    · intro h
      exact hnot (hgroup ▸ group_mem_of_mem_frontier hblock h)
    · intro h
      rw [serviceGroup_of_mem_rootsIn hblock h] at hgroup
      exact hnot (hgroup ▸ List.mem_map_of_mem ((hW.mem_iff w).1 hw).1)
  unfold layout
  rw [hseams, blocks_snoc, List.map_append, hnew]

omit hblock in
theorem layout_join (V W : List Visit) (w : Visit) :
    layout block V (W ++ [w]) = (layout block V W).map (Node.stitch [seamOf block V w]) := by
  unfold layout
  rw [List.map_map, List.map_append, List.map_singleton]
  apply List.map_congr_left
  intro n _
  exact Node.stitch_append _ _ n

/-! ## Leaves and roots at one moment -/

omit hblock in
/-- What overtakes a step has a first part that hangs off it. The induction is on the position of the
overtaking visit: if it does not hang off the step, then because it is overtaken itself. -/
theorem exists_hanging_of_isOvertaken {V : List Visit} {v : Visit} (hV : Preordered V) (hv : v ∈ V)
    {n : Node} (hn : n ∈ blocks block V) (hleaf : n.isLeaf)
    (h : isOvertaken block V v.group v.above n.identifier.serviceGroup) :
    ∃ u ∈ V, n.identifier ∈ frontier block V u.above ∧ rootsIn block u.group ≠ [] ∧
      u.group ∉ v.above ∧ position V u.group < position V v.group := by
  obtain ⟨u, hu, hroots, habove, hlt, q, hq, hle⟩ := isOvertaken_iff.1 h
  induction hk : position V u.group using Nat.strong_induction_on generalizing u q with
  | _ k ih =>
    obtain ⟨rest, hrest⟩ : ∃ rest, u.above = q :: rest := List.head?_eq_some_iff.1 hq
    by_cases hfront : n.identifier ∈ frontier block V u.above
    · exact ⟨u, hu, hfront, hroots, habove, hlt⟩
    · rw [hrest, mem_frontier, not_and, not_and, not_not] at hfront
      obtain ⟨u', hu', hroots', hrest', hlt', q', hq', hle'⟩ :=
        isOvertaken_iff.1 (hfront ⟨n, hn, rfl, hleaf⟩ hle)
      obtain ⟨x, hx, rfl, rfl, hxu⟩ := hV.exists_visit hu ⟨[], hrest.symm⟩
      refine ih _ (by omega) u' hu' hroots' ?_ (by omega) q' hq' hle' rfl
      -- a visit above `v` that comes before `x` would be above `x`
      intro habove'
      exact hrest' (hV.mem_above_of_between hx hv habove' hlt' (by omega))

omit hblock in
/-- When a service is entered, a step is overtaken once something has been joined to it. -/
theorem isOvertaken_iff_joined {V W : List Visit} {v : Visit} (hV : Preordered (V ++ [v]))
    (hW : JoinedBut (v.group :: v.above) (V ++ [v]) W) {n : Node} (hn : n ∈ blocks block (V ++ [v]))
    (hleaf : n.isLeaf) :
    isOvertaken block (V ++ [v]) v.group v.above n.identifier.serviceGroup ↔
      ∃ w ∈ W, n.identifier ∈ frontier block (V ++ [v]) w.above ∧ rootsIn block w.group ≠ [] := by
  have hv : v ∈ V ++ [v] := List.mem_append_right _ (List.mem_singleton_self v)
  constructor
  · intro h
    obtain ⟨w, hw, hfront, hroots, habove, hlt⟩ := exists_hanging_of_isOvertaken hV hv hn hleaf h
    have hne : w.group ≠ v.group := by
      intro heq
      rw [heq] at hlt
      omega
    refine ⟨w, (hW.mem_iff w).2 ⟨hw, ?_, by simp [hne, habove]⟩, hfront, hroots⟩
    intro hnil
    rw [hnil] at hfront
    exact List.not_mem_nil hfront
  · rintro ⟨w, hw, hfront, hroots⟩
    obtain ⟨hwV, hne, hbranch⟩ := (hW.mem_iff w).1 hw
    obtain ⟨p, ancestors, habove⟩ := List.exists_cons_of_ne_nil hne
    rw [List.mem_cons, not_or] at hbranch
    refine isOvertaken_iff.2 ⟨w, hwV, hroots, hbranch.2, ?_, p, ?_, ?_⟩
    · apply lt_of_le_of_ne (hV.position_le_last hwV)
      intro heq
      exact hbranch.1 (position_injOn (List.mem_map_of_mem hwV) heq)
    · rw [Visit.parent?, habove, List.head?_cons]
    · rw [habove] at hfront
      exact (mem_frontier.1 hfront).2.1

omit hblock in
theorem isLeaf_stitch_iff (V W : List Visit) (n : Node) :
    (n.stitch (W.map (seamOf block V))).isLeaf ↔ n.isLeaf ∧
      ¬ ∃ w ∈ W, n.identifier ∈ frontier block V w.above ∧ rootsIn block w.group ≠ [] := by
  simp only [Node.isLeaf, List.isEmpty_iff, List.eq_nil_iff_forall_not_mem,
    Node.mem_stitch_children, not_or, forall_and]
  apply and_congr_right
  intro _
  constructor
  · rintro h ⟨w, hw, hfront, hroots⟩
    obtain ⟨r, hr⟩ := List.exists_mem_of_ne_nil _ hroots
    exact h r ⟨_, List.mem_map_of_mem hw, hfront, hr⟩
  · rintro h j ⟨z, hz, hfront, hj⟩
    obtain ⟨w, hw, rfl⟩ := List.mem_map.1 hz
    exact h ⟨w, hw, hfront, List.ne_nil_of_mem hj⟩

/-- When a service is entered, the leaves are its frontier. -/
theorem leaves_layout {V W : List Visit} {v : Visit} (hV : Preordered (V ++ [v]))
    (hW : JoinedBut (v.group :: v.above) (V ++ [v]) W) :
    ((layout block (V ++ [v]) W).filter Node.isLeaf).map Node.identifier =
      frontier block (V ++ [v]) (v.group :: v.above) := by
  simp only [frontier, layout]
  rw [List.filter_map, List.map_map]
  congr 1
  apply List.filter_congr
  intro n hn
  have hpos : position (V ++ [v]) n.identifier.serviceGroup ≤ position (V ++ [v]) v.group := by
    obtain ⟨u, hu, hnu⟩ := mem_blocks.1 hn
    rw [(hblock _).serviceGroup_eq n hnu]
    exact hV.position_le_last hu
  rw [Bool.eq_iff_iff, Function.comp_apply, isLeaf_stitch_iff]
  simp only [Bool.and_eq_true, hpos, decide_true, and_true, Bool.not_eq_true']
  apply and_congr_right
  intro hleaf
  rw [← isOvertaken_iff_joined hV hW hn hleaf, Bool.not_eq_true]

/-- Until a service is joined, its roots are those of its block. -/
theorem roots_layout {V W : List Visit} {v : Visit} {branch : List String} (hV : Preordered V)
    (hv : v ∈ V) (hW : JoinedBut branch V W) (hbranch : v.group ∈ branch) :
    ((layout block V W).filter fun n => n.identifier.serviceGroup = v.group && n.isRoot).map
      Node.identifier = rootsIn block v.group := by
  unfold layout rootsIn
  rw [List.filter_map, List.map_map, ← filter_blocks hblock hV.nodup hv, List.filter_filter]
  congr 1
  apply List.filter_congr
  intro n _
  rw [Bool.eq_iff_iff]
  simp only [Function.comp_apply, Node.isRoot, List.isEmpty_iff, Bool.and_eq_true,
    decide_eq_true_eq, List.eq_nil_iff_forall_not_mem, Node.mem_stitch_parents]
  rw [Node.stitch_identifier, and_comm]
  refine and_congr_left fun hgroup => ?_
  refine forall_congr' fun j => not_congr (or_iff_left ?_)
  rintro ⟨z, hz, hroot, _⟩
  obtain ⟨w, hw, rfl⟩ := List.mem_map.1 hz
  obtain ⟨_, _, hnot⟩ := (hW.mem_iff w).1 hw
  rw [← serviceGroup_of_mem_rootsIn hblock hroot, hgroup] at hnot
  exact hnot hbranch

end Layout

end RolloutPlan
