import RolloutPlan.Proofs.Representation

/-!
# Where cycles come from

An edge of a graph stays within a service, where it is a dependency of the pipeline, or leads to a
service that is visited later. So a cycle stays within one service, and joining services makes none.

* `Pipelines.DependsOn`: a step waits for another one of its own pipeline.
* `Assembly.Underway.leadsTo_iff`: the two kinds of edges.
* `Assembly.Underway.dependsOn_of_transGen`: what does not lead to a later service stays within one.
* `Assembly.Underway.checked_cases`: what the search for cycles says about a graph.
* `Graph.not_isCyclic_of_forEntrypoints`, `Graph.exists_isCyclic_of_forEntrypoints`: the pipelines of a
  graph without a cycle, and of one with a cycle.
* `Graph.forEntrypoints_cyclic_iff`: a graph has a cycle when a pipeline has one.
-/

namespace RolloutPlan

set_option autoImplicit false

/-- A step waits for another one of its own pipeline. -/
def Pipelines.DependsOn (pipelines : Pipelines) (j i : Identifier) : Prop :=
  ∃ s, pipelines.Declares j s ∧ i.serviceGroup = j.serviceGroup ∧ i.reference ∈ s.dependencySet

namespace Pipelines.DependsOn
variable {pipelines : Pipelines} {i j : Identifier}

theorem serviceGroup_eq (h : pipelines.DependsOn j i) : i.serviceGroup = j.serviceGroup := by
  obtain ⟨_, _, hgroup, _⟩ := h
  exact hgroup

theorem of_pipeline {p : Pipeline} {group : String} (hp : pipelines.lookup group = some p)
    {x y : StepReference} (h : p.DependsOn x y) :
    pipelines.DependsOn (.ofReference group x) (.ofReference group y) := by
  obtain ⟨s, hs, hy⟩ := h
  exact ⟨s, ⟨p, hp, hs⟩, rfl, hy⟩

theorem to_pipeline (h : pipelines.DependsOn j i) {p : Pipeline}
    (hp : pipelines.lookup i.serviceGroup = some p) : p.DependsOn j.reference i.reference := by
  obtain ⟨s, ⟨q, hq, hs⟩, hgroup, hi⟩ := h
  rw [← hgroup, hp] at hq
  obtain rfl := Option.some.inj hq
  exact ⟨s, hs, hi⟩

end Pipelines.DependsOn

namespace Assembly.Underway
variable {pipelines : Pipelines} {V W : List Visit} {a : Assembly}
  (h : Underway pipelines [] V W a)
include h

/-! ## Edges -/

theorem leadsTo_of_mem_children {v : Visit} (hv : v ∈ V) {n : Node}
    (hn : n ∈ blockOf pipelines v.group) {j : Identifier} (hj : j ∈ n.children) :
    LeadsTo a.graph.nodes n.identifier j := by
  refine ⟨n.stitch (W.map (seamOf (blockOf pipelines) V)), ?_, rfl,
    Node.mem_stitch_children.2 (.inl hj)⟩
  rw [h.assembled.nodes]
  exact mem_layout.2 ⟨v, hv, n, hn, rfl⟩

theorem leadsTo_of_dependsOn {i j : Identifier} (hi : i.serviceGroup ∈ V.map Visit.group)
    (hij : pipelines.DependsOn j i) : LeadsTo a.graph.nodes i j := by
  obtain ⟨s, hs, hgroup, hdep⟩ := hij
  obtain ⟨v, hv, hvi⟩ := List.mem_map.1 hi
  have hblock := isBlock_blockOf pipelines v.group
  obtain ⟨m, hm, rfl⟩ := List.mem_map.1
    ((h.assembled.supplied v hv).mem_block_iff.2 ⟨hgroup.symm.trans hvi.symm, s, hs⟩)
  have hparent : i ∈ m.parents := by
    rw [(h.assembled.supplied v hv).parents_eq hm hs, hvi, ← i.ofReference_reference]
    exact List.mem_map_of_mem hdep
  obtain ⟨n, hn, rfl⟩ := List.mem_map.1 (hblock.parents_mem m hm i hparent)
  exact h.leadsTo_of_mem_children hv hn ((hblock.symmetric m hm n hn).2 hparent)

theorem leadsTo_of_mem_frontier {i j : Identifier} {w : Visit} (hw : w ∈ V)
    (hi : i ∈ frontier (blockOf pipelines) V w.above) (hj : j ∈ rootsIn (blockOf pipelines) w.group) :
    LeadsTo a.graph.nodes i j := by
  obtain ⟨n, hn, rfl, _⟩ := mem_blocks_of_mem_frontier hi
  refine ⟨n.stitch (W.map (seamOf (blockOf pipelines) V)), ?_, rfl,
    (mem_children_stitch h.joined).2 (.inr ⟨w, hw, hi, hj⟩)⟩
  rw [h.assembled.nodes]
  exact List.mem_map_of_mem hn

/-- An edge is a dependency within a service or leads from a frontier to the roots of a service that
hangs off it. -/
theorem leadsTo_iff {i j : Identifier} : LeadsTo a.graph.nodes i j ↔
    i.serviceGroup ∈ V.map Visit.group ∧ pipelines.DependsOn j i ∨
      ∃ w ∈ V, i ∈ frontier (blockOf pipelines) V w.above ∧
        j ∈ rootsIn (blockOf pipelines) w.group := by
  constructor
  · rintro ⟨_, hlayout, rfl, hj⟩
    rw [h.assembled.nodes] at hlayout
    obtain ⟨v, hv, n, hn, rfl⟩ := mem_layout.1 hlayout
    have hblock := isBlock_blockOf pipelines v.group
    have hgroup := hblock.serviceGroup_eq n hn
    rw [Node.stitch_identifier]
    rcases (mem_children_stitch h.joined).1 hj with hj | hj
    · refine .inl ⟨hgroup ▸ List.mem_map_of_mem hv, ?_⟩
      obtain ⟨m, hm, rfl⟩ := List.mem_map.1 (hblock.children_mem n hn j hj)
      obtain ⟨hmgroup, s, hs⟩ :=
        (h.assembled.supplied v hv).mem_block_iff.1 (List.mem_map_of_mem hm)
      have hparent := (hblock.symmetric m hm n hn).1 hj
      rw [(h.assembled.supplied v hv).parents_eq hm hs] at hparent
      obtain ⟨r, hr, heq⟩ := List.mem_map.1 hparent
      refine ⟨s, hs, hgroup.trans hmgroup.symm, ?_⟩
      rw [← heq]
      exact hr
    · exact .inr hj
  · rintro (⟨hi, hij⟩ | ⟨w, hw, hi, hj⟩)
    · exact h.leadsTo_of_dependsOn hi hij
    · exact h.leadsTo_of_mem_frontier hw hi hj

theorem position_lt_of_mem_frontier {i j : Identifier} {w : Visit} (hw : w ∈ V)
    (hi : i ∈ frontier (blockOf pipelines) V w.above) (hj : j ∈ rootsIn (blockOf pipelines) w.group) :
    position V i.serviceGroup < position V j.serviceGroup := by
  rw [serviceGroup_of_mem_rootsIn (isBlock_blockOf pipelines) hj]
  cases habove : w.above with
  | nil =>
    rw [habove] at hi
    exact absurd hi List.not_mem_nil
  | cons p ancestors =>
    rw [habove, mem_frontier] at hi
    have hp : p ∈ w.above := habove ▸ List.mem_cons_self
    have := (h.assembled.preordered.position_lt hw hp).2
    omega

theorem dependsOn_or_position_lt {i j : Identifier} (hij : LeadsTo a.graph.nodes i j) :
    pipelines.DependsOn j i ∨ position V i.serviceGroup < position V j.serviceGroup := by
  rcases h.leadsTo_iff.1 hij with ⟨_, hdep⟩ | ⟨w, hw, hi, hj⟩
  · exact .inl hdep
  · exact .inr (h.position_lt_of_mem_frontier hw hi hj)

/-! ## Paths -/

theorem position_le_of_leadsTo {i j : Identifier} (hij : LeadsTo a.graph.nodes i j) :
    position V i.serviceGroup ≤ position V j.serviceGroup := by
  rcases h.dependsOn_or_position_lt hij with hdep | hlt
  · rw [hdep.serviceGroup_eq]
  · exact hlt.le

theorem position_le_of_reflTransGen {i j : Identifier}
    (hij : Relation.ReflTransGen (LeadsTo a.graph.nodes) i j) :
    position V i.serviceGroup ≤ position V j.serviceGroup := by
  induction hij with
  | refl => exact le_refl _
  | tail _ hstep ih => exact ih.trans (h.position_le_of_leadsTo hstep)

/-- A path that does not lead to a later service stays within one, along the dependencies of its
pipeline. -/
theorem dependsOn_of_transGen {i j : Identifier}
    (hij : Relation.TransGen (LeadsTo a.graph.nodes) i j)
    (hle : position V j.serviceGroup ≤ position V i.serviceGroup) :
    i.serviceGroup = j.serviceGroup ∧ ∀ p, pipelines.lookup i.serviceGroup = some p →
      Relation.TransGen p.DependsOn j.reference i.reference := by
  induction hij with
  | @single j hstep =>
    rcases h.dependsOn_or_position_lt hstep with hdep | hlt
    · exact ⟨hdep.serviceGroup_eq, fun p hp => .single (hdep.to_pipeline hp)⟩
    · omega
  | @tail j k hpath hstep ih =>
    rcases h.dependsOn_or_position_lt hstep with hdep | hlt
    · obtain ⟨hij, hdown⟩ := ih (by rw [hdep.serviceGroup_eq]; exact hle)
      refine ⟨hij.trans hdep.serviceGroup_eq, ?_⟩
      intro p hp
      exact .head (hdep.to_pipeline (hij ▸ hp)) (hdown p hp)
    · have := h.position_le_of_reflTransGen hpath.to_reflTransGen
      omega

theorem transGen_of_isCyclic {v : Visit} (hv : v ∈ V) {p : Pipeline}
    (hp : pipelines.lookup v.group = some p) (hcyclic : p.IsCyclic) :
    ∃ i, Relation.TransGen (LeadsTo a.graph.nodes) i i := by
  obtain ⟨r, hr⟩ := hcyclic
  refine ⟨.ofReference v.group r, hr.swap.lift (Identifier.ofReference v.group) ?_⟩
  intro y x hxy
  exact h.leadsTo_of_dependsOn (List.mem_map_of_mem hv) (.of_pipeline hp hxy)

theorem isCyclic_of_transGen {i : Identifier}
    (hi : Relation.TransGen (LeadsTo a.graph.nodes) i i) :
    ∃ v ∈ V, v.group = i.serviceGroup ∧ ∃ p, pipelines.lookup v.group = some p ∧ p.IsCyclic := by
  obtain ⟨_, ⟨n, hn, rfl, _⟩, _⟩ := Relation.TransGen.head'_iff.1 hi
  obtain ⟨hgroup, _⟩ := h.assembled.mem_identifiers_iff.1 (List.mem_map_of_mem hn)
  obtain ⟨v, hv, hgroup⟩ := List.mem_map.1 hgroup
  obtain ⟨p, _, hp, _⟩ := (h.assembled.supplied v hv).exists_presents
  refine ⟨v, hv, hgroup, p, hp, n.identifier.reference, ?_⟩
  rw [hgroup] at hp
  exact (h.dependsOn_of_transGen hi (le_refl _)).2 p hp

/-- Joining services makes no cycle. -/
theorem cyclic_iff : (∃ i, Relation.TransGen (LeadsTo a.graph.nodes) i i) ↔
    ∃ s ∈ V.map Visit.service, ∃ p,
      pipelines.lookup s.serviceGroup = some p ∧ p.IsCyclic := by
  constructor
  · rintro ⟨i, hi⟩
    obtain ⟨v, hv, _, p, hp, hcyclic⟩ := h.isCyclic_of_transGen hi
    exact ⟨v.service, List.mem_map_of_mem hv, p, hp, hcyclic⟩
  · rintro ⟨_, hs, p, hp, hcyclic⟩
    obtain ⟨v, hv, rfl⟩ := List.mem_map.1 hs
    exact h.transGen_of_isCyclic hv hp hcyclic

theorem serviceGroup_of_mem_closedPart {path : List Identifier}
    (hpath : IsLasso (LeadsTo a.graph.nodes) path) :
    closedPart path ≠ [] ∧ ∃ v ∈ V, ∀ i ∈ closedPart path, i.serviceGroup = v.group := by
  obtain ⟨hne, last, hround⟩ := hpath.exists_round
  obtain ⟨i, hi⟩ := List.exists_mem_of_ne_nil _ hne
  have hlast : Relation.TransGen (LeadsTo a.graph.nodes) last last :=
    (hround i hi).2.trans_right (hround i hi).1
  obtain ⟨v, hv, hgroup, _⟩ := h.isCyclic_of_transGen hlast
  refine ⟨hne, v, hv, ?_⟩
  intro j hj
  have hle := h.position_le_of_reflTransGen (hround j hj).1
  rw [hgroup, (h.dependsOn_of_transGen (hround j hj).2 hle).1]

/-! ## The search -/

/-- The search for cycles ends well, and no step comes after itself, or it ends with a path that runs
into itself. -/
theorem checked_cases :
    a.graph.checked = .ok a.graph ∧ (∀ i, ¬ Relation.TransGen (LeadsTo a.graph.nodes) i i) ∨
      ∃ path, a.graph.checked = .error (.cycle path a.graph) ∧
        IsLasso (LeadsTo a.graph.nodes) path := by
  have hgraph := h.represents_visits
  unfold Graph.checked
  cases hsearch : findObstacle? a.graph.nodes with
  | none => exact .inl ⟨rfl, acyclic_of_findObstacle? hgraph.distinct hsearch⟩
  | some obstacle =>
    cases obstacle with
    | cycle path => exact .inr ⟨path, rfl, isLasso_of_findObstacle? hgraph.distinct hsearch⟩
    | missing i =>
      obtain ⟨⟨n, hn, hi⟩, hnot⟩ := missing_of_findObstacle? hgraph.distinct hsearch
      exact absurd (hgraph.children_mem n hn i hi) hnot

end Assembly.Underway

/-! ## Graphs of entrypoints -/

namespace Graph
variable {t : Topology} {entrypoints : List Entrypoint} {pipelines : Pipelines}

theorem not_isCyclic_of_forEntrypoints {g : Graph}
    (h : forEntrypoints t entrypoints pipelines = .ok g) {s : Service}
    (hs : s ∈ t.selected entrypoints) {p : Pipeline} (hp : pipelines.lookup s.serviceGroup = some p) :
    ¬ p.IsCyclic := by
  intro hcyclic
  obtain ⟨a, ha, hchecked⟩ := bind_eq_ok.1 h
  obtain ⟨rfl, hobstacle⟩ := checked_eq_ok hchecked
  have hunderway := Assembly.underway_of_addEntrypoints ha
  obtain ⟨i, hi⟩ := hunderway.cyclic_iff.2 ⟨s, by rwa [t.visits_services], p, hp, hcyclic⟩
  exact acyclic_of_findObstacle? hunderway.assembled.indexed.nodup hobstacle i hi

theorem exists_isCyclic_of_forEntrypoints {path : List Identifier} {g : Graph}
    (h : forEntrypoints t entrypoints pipelines = .error (.cycle path g)) :
    ∃ s ∈ t.selected entrypoints, ∃ p,
      pipelines.lookup s.serviceGroup = some p ∧ p.IsCyclic := by
  cases ha : Assembly.addEntrypoints pipelines t {} entrypoints with
  | error e =>
    rw [forEntrypoints, ha] at h
    obtain rfl := Except.error.inj h
    cases Assembly.graph?_eq_none_of_addEntrypoints ha
  | ok a =>
    rw [forEntrypoints_eq_checked ha] at h
    have hunderway := Assembly.underway_of_addEntrypoints ha
    rcases hunderway.checked_cases with ⟨hok, -⟩ | ⟨path', -, hlasso⟩
    · rw [hok] at h
      cases h
    · have hcyclic := hunderway.cyclic_iff.1 hlasso.not_acyclic
      rwa [t.visits_services] at hcyclic

end Graph

/-- A graph has a cycle when the pipeline of one of its services has one, and the cycle that is
reported lies in one service. -/
theorem Graph.forEntrypoints_cyclic_iff {t : Topology} {entrypoints : List Entrypoint}
    {pipelines : Pipelines} {a : Assembly}
    (h : Assembly.addEntrypoints pipelines t {} entrypoints = .ok a) :
    ((∃ path g, forEntrypoints t entrypoints pipelines = .error (.cycle path g)) ↔
      ∃ s ∈ t.selected entrypoints, ∃ p,
        pipelines.lookup s.serviceGroup = some p ∧ p.IsCyclic) ∧
    ((¬ ∃ s ∈ t.selected entrypoints, ∃ p,
        pipelines.lookup s.serviceGroup = some p ∧ p.IsCyclic) →
      forEntrypoints t entrypoints pipelines = .ok a.graph) ∧
    ∀ path g, forEntrypoints t entrypoints pipelines = .error (.cycle path g) →
      closedPart path ≠ [] ∧ ∃ s ∈ t.selected entrypoints,
        ∀ i ∈ closedPart path, i.serviceGroup = s.serviceGroup := by
  have ha := Assembly.underway_of_addEntrypoints h
  have hresult : forEntrypoints t entrypoints pipelines = a.graph.checked := by
    unfold forEntrypoints
    rw [h]
    rfl
  rw [hresult, ← t.visits_services, ← ha.cyclic_iff]
  rcases ha.checked_cases with ⟨hok, hacyclic⟩ | ⟨path, herror, hlasso⟩
  · rw [hok]
    refine ⟨?_, fun _ => rfl, ?_⟩
    · constructor
      · rintro ⟨_, _, h⟩
        cases h
      · rintro ⟨i, hi⟩
        exact absurd hi (hacyclic i)
    · intro _ _ h
      cases h
  · rw [herror]
    refine ⟨⟨fun _ => hlasso.not_acyclic, fun _ => ⟨path, _, rfl⟩⟩, ?_, ?_⟩
    · intro hnone
      exact absurd hlasso.not_acyclic hnone
    · intro path' g h
      obtain ⟨rfl, rfl⟩ := GraphError.cycle.inj (Except.error.inj h)
      obtain ⟨hne, v, hv, hgroup⟩ := ha.serviceGroup_of_mem_closedPart hlasso
      exact ⟨hne, v.service, List.mem_map_of_mem hv, hgroup⟩

namespace SmallRollout

/-- Two steps of the first service wait for each other. -/
def tangledPipelines : Pipelines where
  entries :=
    [("cluster", pipeline "cluster" []),
      ("dns", pipeline "dns" [step "zone" []]),
      ("network",
        pipeline "network" [step "create" [⟨"rg", "peer"⟩], step "peer" [⟨"rg", "create"⟩]]),
      ("workload", pipeline "workload" [step "deploy" []])]
  increasing := by decide

theorem isCyclic_network : ∃ p, tangledPipelines.lookup "network" = some p ∧ p.IsCyclic := by
  refine ⟨_, rfl, ⟨"rg", "create"⟩, .tail (b := ⟨"rg", "peer"⟩) (.single ?_) ?_⟩
  · exact ⟨step "create" [⟨"rg", "peer"⟩], ⟨_, .head _, rfl⟩, .head _⟩
  · exact ⟨step "peer" [⟨"rg", "create"⟩], ⟨_, .tail _ (.head _), rfl⟩, .head _⟩

end SmallRollout

theorem Graph.cyclic_tangled_rollout : ∃ a,
    Assembly.addEntrypoints SmallRollout.tangledPipelines SmallRollout.topology {}
      SmallRollout.entrypoints = .ok a ∧
    ∃ path g, forEntrypoints SmallRollout.topology SmallRollout.entrypoints
      SmallRollout.tangledPipelines = .error (.cycle path g) := by
  cases ha : Assembly.addEntrypoints SmallRollout.tangledPipelines SmallRollout.topology {}
      SmallRollout.entrypoints with
  | error e =>
    have hok : (Assembly.addEntrypoints SmallRollout.tangledPipelines SmallRollout.topology {}
        SmallRollout.entrypoints).isOk := by
      cbv
    rw [ha] at hok
    cases hok
  | ok a =>
    refine ⟨a, rfl, (forEntrypoints_cyclic_iff ha).1.2 ?_⟩
    refine ⟨SmallRollout.network, ?_, SmallRollout.isCyclic_network⟩
    rw [← Topology.visits_services, SmallRollout.visits_eq]
    exact .head _

end RolloutPlan
