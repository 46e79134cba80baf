import Mathlib.Data.Set.Finite.Basic
import RolloutPlan.Proofs.Acyclicity

/-!
# The order across services

In a graph without cycles a step comes before a step of another service exactly when the other service
stands under a service that is not visited before the service of the step.

* `exists_final_of_acyclic`: an acyclic relation on a list ends where it cannot go on.
* `Assembly.Underway.exists_mem_frontier`: every step leads to each frontier that is not before it.
* `Assembly.Underway.exists_mem_rootsIn`: every step comes after a root of its service.
* `Graph.comesBefore_iff`: the order of two steps of different services.
-/

namespace RolloutPlan

set_option autoImplicit false

/-- Along an acyclic relation every member of a list leads to a final one, if the relation leads on
within the list from those that are not final. -/
theorem exists_final_of_acyclic {α : Type} {R : α → α → Prop} {l : List α} {P : α → Prop}
    (hacyclic : ∀ x, ¬ Relation.TransGen R x x)
    (hstep : ∀ x ∈ l, P x ∨ ∃ y ∈ l, R x y) :
    ∀ x ∈ l, ∃ y, P y ∧ Relation.ReflTransGen R x y := by
  let S : {x // x ∈ l} → {x // x ∈ l} → Prop := fun y x => Relation.TransGen R x y
  have : IsTrans _ S := ⟨fun _ _ _ hyx hzy => hzy.trans hyx⟩
  have : Std.Irrefl S := ⟨fun x => hacyclic x⟩
  have : Finite {x // x ∈ l} := l.finite_toSet.to_subtype
  have hwf : WellFounded S := Finite.wellFounded_of_trans_of_irrefl S
  intro x hx
  refine hwf.induction (C := fun x => ∃ y, P y ∧ Relation.ReflTransGen R x y) ⟨x, hx⟩ ?_
  rintro ⟨x, hx⟩ ih
  rcases hstep x hx with hfinal | ⟨y, hy, hxy⟩
  · exact ⟨x, hfinal, .refl⟩
  · obtain ⟨z, hz, hyz⟩ := ih ⟨y, hy⟩ (.single hxy)
    exact ⟨z, hz, .head hxy hyz⟩

namespace Assembly.Underway
variable {pipelines : Pipelines} {V W : List Visit} {a : Assembly}
  (h : Underway pipelines [] V W a)
include h

theorem mem_identifiers_of_leadsTo {i j : Identifier} (hij : LeadsTo a.graph.nodes i j) :
    i ∈ a.graph.nodes.map Node.identifier ∧ j ∈ a.graph.nodes.map Node.identifier := by
  obtain ⟨n, hn, rfl, hj⟩ := hij
  exact ⟨List.mem_map_of_mem hn, h.represents_visits.children_mem n hn j hj⟩

/-! ## Forwards -/

/-- A step that is not on the frontier of a service that comes later leads on to a step that is not
after the frontier either. -/
theorem exists_child_of_notMem_frontier {P : Visit} (hP : P ∈ V) {i : Identifier}
    (hi : i ∈ a.graph.nodes.map Node.identifier)
    (hle : position V i.serviceGroup ≤ position V P.group)
    (hnot : i ∉ frontier (blockOf pipelines) V (P.group :: P.above)) :
    ∃ j, LeadsTo a.graph.nodes i j ∧ position V j.serviceGroup ≤ position V P.group := by
  rw [h.assembled.map_identifier_nodes] at hi
  obtain ⟨n, hn, rfl⟩ := List.mem_map.1 hi
  by_cases hleaf : n.children = []
  · have hovertaken : isOvertaken (blockOf pipelines) V P.group P.above n.identifier.serviceGroup := by
      by_contra hno
      exact hnot (mem_frontier.2 ⟨⟨n, hn, rfl, List.isEmpty_iff.2 hleaf⟩, hle, hno⟩)
    obtain ⟨u, hu, hfront, hroots, _, hlt⟩ := exists_hanging_of_isOvertaken h.assembled.preordered
      hP hn (List.isEmpty_iff.2 hleaf) hovertaken
    obtain ⟨r, hr⟩ := List.exists_mem_of_ne_nil _ hroots
    refine ⟨r, h.leadsTo_of_mem_frontier hu hfront hr, ?_⟩
    rw [serviceGroup_of_mem_rootsIn (isBlock_blockOf pipelines) hr]
    exact hlt.le
  · obtain ⟨j, hj⟩ := List.exists_mem_of_ne_nil _ hleaf
    obtain ⟨v, hv, hnv⟩ := mem_blocks.1 hn
    refine ⟨j, h.leadsTo_of_mem_children hv hnv hj, ?_⟩
    have hblock := isBlock_blockOf pipelines v.group
    obtain ⟨m, hm, rfl⟩ := List.mem_map.1 (hblock.children_mem n hnv j hj)
    rw [hblock.serviceGroup_eq m hm, ← hblock.serviceGroup_eq n hnv]
    exact hle

/-- Every step leads to the frontiers of the services that are not visited before its own. -/
theorem exists_mem_frontier (hacyclic : ∀ i, ¬ Relation.TransGen (LeadsTo a.graph.nodes) i i)
    {P : Visit} (hP : P ∈ V) {i : Identifier} (hi : i ∈ a.graph.nodes.map Node.identifier)
    (hle : position V i.serviceGroup ≤ position V P.group) :
    ∃ x ∈ frontier (blockOf pipelines) V (P.group :: P.above),
      Relation.ReflTransGen (LeadsTo a.graph.nodes) i x := by
  refine exists_final_of_acyclic (P := (· ∈ frontier (blockOf pipelines) V (P.group :: P.above)))
    (l := (a.graph.nodes.map Node.identifier).filter fun i =>
      position V i.serviceGroup ≤ position V P.group) hacyclic ?_ i ?_
  · intro x hx
    rw [List.mem_filter, decide_eq_true_eq] at hx
    by_cases hfront : x ∈ frontier (blockOf pipelines) V (P.group :: P.above)
    · exact .inl hfront
    · obtain ⟨j, hj, hjle⟩ := h.exists_child_of_notMem_frontier hP hx.1 hx.2 hfront
      refine .inr ⟨j, ?_, hj⟩
      rw [List.mem_filter, decide_eq_true_eq]
      exact ⟨(h.mem_identifiers_of_leadsTo hj).2, hjle⟩
  · rw [List.mem_filter, decide_eq_true_eq]
    exact ⟨hi, hle⟩

/-! ## Backwards -/

theorem exists_parent_of_notMem_rootsIn {i : Identifier} (hi : i ∈ a.graph.nodes.map Node.identifier)
    (hnot : i ∉ rootsIn (blockOf pipelines) i.serviceGroup) :
    ∃ j, LeadsTo a.graph.nodes j i ∧ j.serviceGroup = i.serviceGroup := by
  obtain ⟨hgroup, s, hs⟩ := h.assembled.mem_identifiers_iff.1 hi
  obtain ⟨v, hv, hvi⟩ := List.mem_map.1 hgroup
  have hsupplied := h.assembled.supplied v hv
  obtain ⟨n, hn, rfl⟩ := List.mem_map.1 (hsupplied.mem_block_iff.2 ⟨hvi.symm, s, hs⟩)
  have hdep : s.dependencySet ≠ [] := by
    intro hempty
    refine hnot (mem_rootsIn.2 ⟨n, ?_, rfl, (hsupplied.isRoot_iff hn hs).2 hempty⟩)
    rw [← hvi]
    exact hn
  obtain ⟨r, hr⟩ := List.exists_mem_of_ne_nil _ hdep
  refine ⟨.ofReference n.identifier.serviceGroup r, ?_, rfl⟩
  exact h.leadsTo_of_dependsOn hgroup ⟨s, hs, rfl, hr⟩

theorem exists_mem_rootsIn (hacyclic : ∀ i, ¬ Relation.TransGen (LeadsTo a.graph.nodes) i i)
    {i : Identifier} (hi : i ∈ a.graph.nodes.map Node.identifier) :
    ∃ r ∈ rootsIn (blockOf pipelines) i.serviceGroup,
      Relation.ReflTransGen (LeadsTo a.graph.nodes) r i := by
  have hback : ∀ x, ¬ Relation.TransGen (Function.swap (LeadsTo a.graph.nodes)) x x :=
    fun x hx => hacyclic x hx.swap
  obtain ⟨r, hr, hpath⟩ := exists_final_of_acyclic
    (P := (· ∈ rootsIn (blockOf pipelines) i.serviceGroup))
    (l := (a.graph.nodes.map Node.identifier).filter fun j => j.serviceGroup = i.serviceGroup)
    hback (by
      intro x hx
      rw [List.mem_filter, decide_eq_true_eq] at hx
      rw [← hx.2]
      by_cases hroot : x ∈ rootsIn (blockOf pipelines) x.serviceGroup
      · exact .inl hroot
      · obtain ⟨j, hj, hgroup⟩ := h.exists_parent_of_notMem_rootsIn hx.1 hroot
        refine .inr ⟨j, ?_, hj⟩
        rw [List.mem_filter, decide_eq_true_eq]
        exact ⟨(h.mem_identifiers_of_leadsTo hj).1, hgroup⟩)
    i (by rw [List.mem_filter, decide_eq_true_eq]; exact ⟨hi, rfl⟩)
  exact ⟨r, hr, hpath.swap⟩

/-! ## Across services -/

theorem serviceGroup_eq_or_exists_parent_of_leadsTo {i j : Identifier}
    (hij : LeadsTo a.graph.nodes i j) : i.serviceGroup = j.serviceGroup ∨
      ∃ T ∈ V, T.group = j.serviceGroup ∧ ∃ P ∈ V, T.parent? = some P.group ∧
        position V i.serviceGroup ≤ position V P.group := by
  rcases h.leadsTo_iff.1 hij with ⟨_, hdep⟩ | ⟨T, hT, hi, hj⟩
  · exact .inl hdep.serviceGroup_eq
  · have hgroup := serviceGroup_of_mem_rootsIn (isBlock_blockOf pipelines) hj
    cases hq : T.parent? with
    | none =>
      have habove : T.above = [] := List.head?_eq_none_iff.1 hq
      rw [habove] at hi
      exact absurd hi List.not_mem_nil
    | some q =>
      obtain ⟨P, hP, rfl, habove⟩ := h.assembled.preordered.exists_parent hT hq
      rw [habove] at hi
      exact .inr ⟨T, hT, hgroup.symm, P, hP, hq, (mem_frontier.1 hi).2.1⟩

/-- A path to another service goes through a frontier that the other service hangs off. -/
theorem serviceGroup_eq_or_exists_parent {i j : Identifier}
    (hij : Relation.TransGen (LeadsTo a.graph.nodes) i j) : i.serviceGroup = j.serviceGroup ∨
      ∃ T ∈ V, T.group = j.serviceGroup ∧ ∃ P ∈ V, T.parent? = some P.group ∧
        position V i.serviceGroup ≤ position V P.group := by
  induction hij with
  | single hstep => exact h.serviceGroup_eq_or_exists_parent_of_leadsTo hstep
  | @tail x y hpath hstep ih =>
    rcases h.serviceGroup_eq_or_exists_parent_of_leadsTo hstep with
      hgroup | ⟨T, hT, hgroup, P, hP, hparent, hle⟩
    · rw [← hgroup]
      exact ih
    · have hle' := h.position_le_of_reflTransGen hpath.to_reflTransGen
      exact .inr ⟨T, hT, hgroup, P, hP, hparent, hle'.trans hle⟩

/-- Every step of a service leads to every step of the services under it, and to those of the services
under a service that is visited later. -/
theorem transGen_of_position_le (hacyclic : ∀ i, ¬ Relation.TransGen (LeadsTo a.graph.nodes) i i)
    {i j : Identifier} (hi : i ∈ a.graph.nodes.map Node.identifier)
    (hj : j ∈ a.graph.nodes.map Node.identifier) {T P : Visit} (hT : T ∈ V)
    (hgroup : T.group = j.serviceGroup) (habove : T.above = P.group :: P.above) (hP : P ∈ V)
    (hle : position V i.serviceGroup ≤ position V P.group) :
    Relation.TransGen (LeadsTo a.graph.nodes) i j := by
  obtain ⟨x, hx, hix⟩ := h.exists_mem_frontier hacyclic hP hi hle
  obtain ⟨r, hr, hrj⟩ := h.exists_mem_rootsIn hacyclic hj
  rw [← habove] at hx
  rw [← hgroup] at hr
  exact .trans_left (.tail' hix (h.leadsTo_of_mem_frontier hT hx hr)) hrj

/-- What stands above a service comes before all of it. -/
theorem transGen_of_mem_above (hacyclic : ∀ i, ¬ Relation.TransGen (LeadsTo a.graph.nodes) i i)
    {i j : Identifier} (hi : i ∈ a.graph.nodes.map Node.identifier)
    (hj : j ∈ a.graph.nodes.map Node.identifier) {T : Visit} (hT : T ∈ V)
    (hgroup : j.serviceGroup = T.group) (hmem : i.serviceGroup ∈ T.above) :
    Relation.TransGen (LeadsTo a.graph.nodes) i j := by
  have hV := h.assembled.preordered
  obtain ⟨q, ancestors, hsplit⟩ := List.exists_cons_of_ne_nil (List.ne_nil_of_mem hmem)
  have hq : T.parent? = some q := by rw [Visit.parent?, hsplit, List.head?_cons]
  obtain ⟨P, hP, rfl, habove⟩ := hV.exists_parent hT hq
  apply h.transGen_of_position_le hacyclic hi hj hT hgroup.symm habove hP
  rw [habove] at hmem
  rcases List.mem_cons.1 hmem with heq | hmem
  · rw [heq]
  · exact (hV.position_lt hP hmem).2.le

/-- What stands under one service is not ordered. -/
theorem not_transGen_of_parent?_eq {S T : Visit} (hS : S ∈ V) (hT : T ∈ V) (hST : S.group ≠ T.group)
    (hparent : S.parent? = T.parent?) {i j : Identifier} (hi : i.serviceGroup = S.group)
    (hj : j.serviceGroup = T.group) : ¬ Relation.TransGen (LeadsTo a.graph.nodes) i j := by
  have hV := h.assembled.preordered
  intro hpath
  rcases h.serviceGroup_eq_or_exists_parent hpath with
    hgroup | ⟨T', hT', hgroup, P, hP, hparent', hle⟩
  · exact hST (hi.symm.trans (hgroup.trans hj))
  · obtain rfl := hV.eq_of_group_eq hT' hT (hgroup.trans hj)
    have hlt := (hV.position_lt hS (List.mem_of_mem_head? (hparent.trans hparent'))).2
    rw [hi] at hle
    omega

end Assembly.Underway

/-- The order of the steps of different services. A step comes before the steps of a service `T` that
stands under a service `P`, unless its own service is visited after `P`. -/
theorem Graph.comesBefore_iff {t : Topology} {entrypoints : List Entrypoint} {pipelines : Pipelines}
    {g : Graph} (h : forEntrypoints t entrypoints pipelines = .ok g) :
    (∀ x ∈ g.nodes.map Node.identifier, ∀ y ∈ g.nodes.map Node.identifier,
      x.serviceGroup ≠ y.serviceGroup →
        (Relation.TransGen (LeadsTo g.nodes) x y ↔
          ∃ T ∈ t.visits entrypoints, T.group = y.serviceGroup ∧
            ∃ P ∈ t.visits entrypoints, T.parent? = some P.group ∧
              position (t.visits entrypoints) x.serviceGroup ≤
                position (t.visits entrypoints) P.group)) ∧
    -- what stands above a service comes before all of it
    (∀ T ∈ t.visits entrypoints, ∀ x ∈ g.nodes.map Node.identifier,
      ∀ y ∈ g.nodes.map Node.identifier, x.serviceGroup ∈ T.above → y.serviceGroup = T.group →
        Relation.TransGen (LeadsTo g.nodes) x y) ∧
    -- what stands under one service is not ordered
    ∀ S ∈ t.visits entrypoints, ∀ T ∈ t.visits entrypoints, S.group ≠ T.group →
      S.parent? = T.parent? → ∀ x y : Identifier, x.serviceGroup = S.group →
        y.serviceGroup = T.group → ¬ Relation.TransGen (LeadsTo g.nodes) x y := by
  unfold forEntrypoints at h
  obtain ⟨a, hadd, hchecked⟩ := bind_eq_ok.1 h
  obtain ⟨rfl, hsearch⟩ := checked_eq_ok hchecked
  have ha := Assembly.underway_of_addEntrypoints hadd
  have hV := ha.assembled.preordered
  have hacyclic := acyclic_of_findObstacle? ha.represents_visits.distinct hsearch
  refine ⟨?_, ?_, ?_⟩
  · intro x hx y hy hxy
    constructor
    · intro hpath
      exact (ha.serviceGroup_eq_or_exists_parent hpath).resolve_left hxy
    · rintro ⟨T, hT, hgroup, P, hP, hparent, hle⟩
      obtain ⟨P', hP', heq, habove⟩ := hV.exists_parent hT hparent
      obtain rfl := hV.eq_of_group_eq hP' hP heq
      exact ha.transGen_of_position_le hacyclic hx hy hT hgroup habove hP hle
  · intro T hT x hx y hy hmem hgroup
    exact ha.transGen_of_mem_above hacyclic hx hy hT hgroup hmem
  · intro S hS T hT hST hparent x y hx hy
    exact ha.not_transGen_of_parent?_eq hS hT hST hparent hx hy

/-- In the small rollout the service under the service without steps comes after the first one. -/
theorem Graph.comesBefore_in_small_rollout : ∃ g,
    forEntrypoints SmallRollout.topology SmallRollout.entrypoints SmallRollout.pipelines = .ok g ∧
      Relation.TransGen (LeadsTo g.nodes) ⟨"network", "rg", "create"⟩ ⟨"workload", "rg", "deploy"⟩ ∧
      ¬ Relation.TransGen (LeadsTo g.nodes) ⟨"workload", "rg", "deploy"⟩ ⟨"dns", "rg", "zone"⟩ := by
  obtain ⟨g, hg, hnodes, _⟩ := SmallRollout.exists_graph
  have h := (comesBefore_iff hg).1
  rw [SmallRollout.visits_eq] at h
  refine ⟨g, hg, ?_, ?_⟩
  · refine (h _ ?_ _ ?_ (by decide)).2 ⟨⟨{ serviceGroup := "workload" }, ["cluster", "network"]⟩,
      ?_, rfl, ⟨{ serviceGroup := "cluster", children := [{ serviceGroup := "workload" }] },
        ["network"]⟩, ?_, rfl, by decide⟩
    · simp [hnodes, SmallRollout.nodes]
    · simp [hnodes, SmallRollout.nodes]
    · simp [SmallRollout.visits]
    · simp [SmallRollout.visits]
  · rw [h _ ?_ _ ?_ (by decide)]
    · decide
    · simp [hnodes, SmallRollout.nodes]
    · simp [hnodes, SmallRollout.nodes]

end RolloutPlan
