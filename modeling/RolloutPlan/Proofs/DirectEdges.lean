import RolloutPlan.Proofs.Representation

/-!
# The direct edges of a graph

The parents of a step are read off the declarations and the order of the visits. A step that names or
reads from others waits for these, and any other step waits for the frontier of the service that its
own service stands under.

* `Pipelines.IsFinal`, `Pipelines.HasInitialStep`: what frontiers depend on in the pipelines.
* `OnFrontier`: the frontier of a service. `Assembly.Assembled.frontier_blockOf_eq`: it is the one that
  the assembly finds.
* `GraphSource.parents_of_assembles`: the parents of every step.
-/

namespace RolloutPlan

set_option autoImplicit false

/-! ## Frontiers and declarations -/

/-- No step of its own pipeline depends on a step. -/
def Pipelines.IsFinal (pipelines : Pipelines) (x : Identifier) : Prop :=
  ∀ y t, pipelines.Declares y t → y.serviceGroup = x.serviceGroup → x.reference ∉ t.dependencySet

/-- A service has a step without dependencies. -/
def Pipelines.HasInitialStep (pipelines : Pipelines) (group : String) : Prop :=
  ∃ y t, pipelines.Declares y t ∧ y.serviceGroup = group ∧ t.dependencySet = []

/-- The services under `P` hang off a step of the visits `V`. -/
structure OnFrontier (pipelines : Pipelines) (V : List Visit) (P : Visit) (x : Identifier) : Prop where
  final : pipelines.IsFinal x
  /-- The service of the step is `P` or comes before it. -/
  before : position V x.serviceGroup ≤ position V P.group
  /-- What hangs off the step, or off something after it, and comes before `P` is above `P`. -/
  not_overtaken : ∀ T ∈ V, pipelines.HasInitialStep T.group → ∀ q, T.parent? = some q →
    position V x.serviceGroup ≤ position V q → position V T.group < position V P.group →
      T.group ∈ P.above

namespace Supplied
variable {pipelines : Pipelines} {group : String} (h : Supplied pipelines group)
include h

theorem rootsIn_ne_nil_iff :
    rootsIn (blockOf pipelines) group ≠ [] ↔ pipelines.HasInitialStep group := by
  constructor
  · intro hne
    obtain ⟨i, hi⟩ := List.exists_mem_of_ne_nil _ hne
    obtain ⟨n, hn, rfl, hroot⟩ := mem_rootsIn.1 hi
    obtain ⟨hgroup, s, hs⟩ := h.mem_block_iff.1 (List.mem_map_of_mem hn)
    exact ⟨n.identifier, s, hs, hgroup, (h.isRoot_iff hn hs).1 hroot⟩
  · rintro ⟨i, s, hs, hgroup, hinitial⟩
    obtain ⟨n, hn, rfl⟩ := List.mem_map.1 (h.mem_block_iff.2 ⟨hgroup, s, hs⟩)
    exact List.ne_nil_of_mem (mem_rootsIn.2 ⟨n, hn, rfl, (h.isRoot_iff hn hs).2 hinitial⟩)

theorem isFinal_iff {n : Node} (hn : n ∈ blockOf pipelines group) :
    n.children = [] ↔ pipelines.IsFinal n.identifier := by
  rw [h.isLeaf_iff hn, Pipelines.IsFinal, (isBlock_blockOf pipelines group).serviceGroup_eq n hn]

end Supplied

namespace Assembly.Assembled
variable {pipelines : Pipelines} {V W : List Visit} {a : Assembly} (h : Assembled pipelines V W a)
include h

theorem onFrontier_iff {P : Visit} {x : Identifier} : OnFrontier pipelines V P x ↔
    pipelines.IsFinal x ∧ position V x.serviceGroup ≤ position V P.group ∧
      ¬ isOvertaken (blockOf pipelines) V P.group P.above x.serviceGroup := by
  rw [isOvertaken_iff]
  constructor
  · rintro ⟨hfinal, hbefore, hnot⟩
    refine ⟨hfinal, hbefore, ?_⟩
    rintro ⟨T, hT, hroots, habove, hlt, q, hq, hle⟩
    exact habove (hnot T hT ((h.supplied T hT).rootsIn_ne_nil_iff.1 hroots) q hq hle hlt)
  · rintro ⟨hfinal, hbefore, hnone⟩
    refine ⟨hfinal, hbefore, ?_⟩
    intro T hT hinitial q hq hle hlt
    by_contra habove
    exact hnone ⟨T, hT, (h.supplied T hT).rootsIn_ne_nil_iff.2 hinitial, habove, hlt, q, hq, hle⟩

open scoped Classical in
/-- The frontier that the assembly finds lists its steps in the order of the nodes. -/
theorem frontier_blockOf_eq (P : Visit) :
    frontier (blockOf pipelines) V (P.group :: P.above) =
      (a.graph.nodes.map Node.identifier).filter fun x => OnFrontier pipelines V P x := by
  rw [h.map_identifier_nodes, List.filter_map, frontier]
  congr 1
  apply List.filter_congr
  intro n hn
  obtain ⟨v, hv, hnv⟩ := mem_blocks.1 hn
  rw [Bool.eq_iff_iff]
  simp only [Function.comp_apply, decide_eq_true_eq, Bool.and_eq_true, Bool.not_eq_true',
    Node.isLeaf, List.isEmpty_iff]
  rw [h.onFrontier_iff, (h.supplied v hv).isFinal_iff hnv, Bool.not_eq_true, and_assoc]

theorem mem_frontier_blockOf_iff {P : Visit} {x : Identifier} :
    x ∈ frontier (blockOf pipelines) V (P.group :: P.above) ↔
      x ∈ a.graph.nodes.map Node.identifier ∧ OnFrontier pipelines V P x := by
  classical
  rw [h.frontier_blockOf_eq, List.mem_filter, decide_eq_true_eq]

/-- A step of `P` on which no other depends is on the frontier of `P`: what stands under a service that
does not come before `P` comes after `P`. -/
theorem onFrontier_of_isFinal {P : Visit} {x : Identifier} (hx : pipelines.IsFinal x)
    (hgroup : x.serviceGroup = P.group) : OnFrontier pipelines V P x := by
  refine ⟨hx, by rw [hgroup], ?_⟩
  intro T hT _ q hq hle hlt
  have := (h.preordered.position_lt hT (List.mem_of_mem_head? hq)).2
  rw [hgroup] at hle
  omega

end Assembly.Assembled

/-! ## Parents -/

namespace Assembly.Underway
variable {pipelines : Pipelines} {V W : List Visit} {a : Assembly}
  (h : Underway pipelines [] V W a)
include h

theorem parents_eq {C : Visit} (hC : C ∈ V) {n : Node} (hn : n ∈ a.graph.nodesOf C.group) {s : Step}
    (hs : pipelines.Declares n.identifier s) : n.parents =
      if s.dependencySet = [] then frontier (blockOf pipelines) V C.above
      else s.dependencySet.map (.ofReference C.group) := by
  rw [h.assembled.nodesOf_eq hC] at hn
  obtain ⟨m, hm, rfl⟩ := List.mem_map.1 hn
  rw [parents_stitch (isBlock_blockOf pipelines) h.assembled.preordered h.joined hC hm,
    (h.assembled.supplied C hC).parents_eq hm hs]
  simp only [List.map_eq_nil_iff]

/-- Services under one service hang off one frontier. -/
theorem above_eq_of_parent?_eq {C C' : Visit} (hC : C ∈ V) (hC' : C' ∈ V)
    (hsame : C'.parent? = C.parent?) : C'.above = C.above := by
  have hV := h.assembled.preordered
  cases hq : C.parent? with
  | none =>
    have habove : C.above = [] := List.head?_eq_none_iff.1 hq
    have habove' : C'.above = [] := List.head?_eq_none_iff.1 (hsame.trans hq)
    rw [habove, habove']
  | some q =>
    obtain ⟨P, hP, hgroup, habove⟩ := hV.exists_parent hC hq
    obtain ⟨P', hP', hgroup', habove'⟩ := hV.exists_parent hC' (hsame.trans hq)
    have hPP : P' = P := hV.eq_of_group_eq hP' hP (hgroup'.trans hgroup.symm)
    rw [habove, habove', hPP]

end Assembly.Underway

open scoped Classical in
/-- The parents of every step of a graph that is built. -/
theorem GraphSource.parents_of_assembles {r : GraphSource} {g : Graph} (h : r.Assembles g) :
    ∀ C ∈ r.visits, ∀ n ∈ g.nodesOf C.group, ∀ s, g.step? n.identifier = some s →
      (s.dependencySet ≠ [] ∨ C.parent? = none →
        n.parents = s.dependencySet.map (.ofReference C.group)) ∧
      (s.dependencySet = [] → ∀ q, C.parent? = some q → ∃ P ∈ r.visits, P.group = q ∧
        n.parents = (g.nodes.map Node.identifier).filter fun x =>
          OnFrontier r.pipelines r.visits P x) ∧
      -- the final steps of the service above are parents
      (s.dependencySet = [] → ∀ x ∈ g.nodes.map Node.identifier, C.parent? = some x.serviceGroup →
        r.pipelines.IsFinal x → x ∈ n.parents) ∧
      -- the services under one service share a frontier
      (s.dependencySet = [] → ∀ C' ∈ r.visits, C'.parent? = C.parent? →
        ∀ n' ∈ g.nodesOf C'.group, ∀ s', g.step? n'.identifier = some s' →
          s'.dependencySet = [] → n'.parents = n.parents) := by
  obtain ⟨W, a, ha, rfl⟩ := h.underway
  intro C hC n hn s hs
  have hdeclared := ((ha.assembled.steps n.identifier s).1 hs).2
  have hparents := ha.parents_eq hC hn hdeclared
  refine ⟨?_, ?_, ?_, ?_⟩
  · rintro (hdep | hroot)
    · rw [hparents, if_neg hdep]
    · have habove : C.above = [] := List.head?_eq_none_iff.1 hroot
      rw [hparents, habove, frontier]
      split_ifs with hdep
      · rw [hdep, List.map_nil]
      · rfl
  · intro hdep q hq
    obtain ⟨P, hP, rfl, habove⟩ := ha.assembled.preordered.exists_parent hC hq
    refine ⟨P, hP, rfl, ?_⟩
    rw [hparents, if_pos hdep, habove, ha.assembled.frontier_blockOf_eq]
  · intro hdep x hx hq hfinal
    obtain ⟨P, hP, hgroup, habove⟩ := ha.assembled.preordered.exists_parent hC hq
    rw [hparents, if_pos hdep, habove, ha.assembled.mem_frontier_blockOf_iff]
    exact ⟨hx, ha.assembled.onFrontier_of_isFinal hfinal hgroup.symm⟩
  · intro hdep C' hC' hsame n' hn' s' hs' hdep'
    have hdeclared' := ((ha.assembled.steps n'.identifier s').1 hs').2
    rw [hparents, if_pos hdep, ha.parents_eq hC' hn' hdeclared', if_pos hdep',
      ha.above_eq_of_parent?_eq hC hC' hsame]

open scoped Classical in
theorem GraphSource.parents_in_small_rollout : ∃ g,
    (entrypoints SmallRollout.topology SmallRollout.entrypoints SmallRollout.pipelines).Assembles g ∧
      ∃ P ∈ SmallRollout.topology.visits SmallRollout.entrypoints, P.group = "network" ∧
        [⟨"network", "rg", "peer"⟩] = (g.nodes.map Node.identifier).filter fun x =>
          OnFrontier SmallRollout.pipelines
            (SmallRollout.topology.visits SmallRollout.entrypoints) P x := by
  obtain ⟨g, hg, hnodes, hstep⟩ := SmallRollout.exists_graph
  have h : (entrypoints SmallRollout.topology SmallRollout.entrypoints
      SmallRollout.pipelines).Assembles g := .inl hg
  have hC : ⟨{ serviceGroup := "dns" }, ["network"]⟩ ∈
      SmallRollout.topology.visits SmallRollout.entrypoints := by
    simp [SmallRollout.visits_eq, SmallRollout.visits]
  have hn : ⟨⟨"dns", "rg", "zone"⟩, [], [⟨"network", "rg", "peer"⟩]⟩ ∈ g.nodesOf "dns" := by
    simp [Graph.nodesOf, hnodes, SmallRollout.nodes]
  exact ⟨g, h, (parents_of_assembles h _ hC _ hn _ hstep).2.1 (by cbv) "network" rfl⟩

end RolloutPlan
