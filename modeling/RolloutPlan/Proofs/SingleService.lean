import RolloutPlan.Proofs.Acyclicity
import RolloutPlan.Proofs.Bookkeeping

/-!
# The graph of one service of a rollout

Joining services adds edges across services and none within one. So the graph of a service alone can be
cut out of every graph that the service was put into.

* `Node.within`: a node without its neighbours in other services. `Underway.within_stitch`: of a joined
  node, the node that its pipeline contributes is left.
* `Graph.IsPartOf`: a graph is the part of another one that belongs to a service.
* `Graph.exists_forPipeline`: a coherent pipeline without a cycle has a graph of its own.
* `Graph.forPipeline_of_forEntrypoints`: it is part of the graph of a rollout.
-/

namespace RolloutPlan

set_option autoImplicit false

/-! ## Neighbours within a service -/

/-- A node without its neighbours in other services. -/
def Node.within (serviceGroup : String) (n : Node) : Node where
  identifier := n.identifier
  children := n.children.filter (·.serviceGroup = serviceGroup)
  parents := n.parents.filter (·.serviceGroup = serviceGroup)

theorem IsBlock.within_eq {group : String} {nodes : List Node} (h : IsBlock group nodes) {n : Node}
    (hn : n ∈ nodes) : n.within group = n := by
  have hself : ∀ j ∈ nodes.map Node.identifier, j.serviceGroup = group := by
    intro j hj
    obtain ⟨m, hm, rfl⟩ := List.mem_map.1 hj
    exact h.serviceGroup_eq m hm
  have hchildren : n.children.filter (·.serviceGroup = group) = n.children := by
    rw [List.filter_eq_self]
    intro j hj
    simpa using hself j (h.children_mem n hn j hj)
  have hparents : n.parents.filter (·.serviceGroup = group) = n.parents := by
    rw [List.filter_eq_self]
    intro j hj
    simpa using hself j (h.parents_mem n hn j hj)
  rw [Node.within, hchildren, hparents]

/-- Seams between services leave the neighbours within a service alone. -/
theorem Node.within_stitch {seams : List Seam}
    (h : ∀ z ∈ seams, ∀ i ∈ z.leaves, ∀ j ∈ z.roots, i.serviceGroup ≠ j.serviceGroup) (n : Node) :
    (n.stitch seams).within n.identifier.serviceGroup = n.within n.identifier.serviceGroup := by
  have hchildren : (seams.flatMap fun z => if n.identifier ∈ z.leaves then z.roots else []).filter
      (·.serviceGroup = n.identifier.serviceGroup) = [] := by
    rw [List.filter_eq_nil_iff]
    intro j hj
    obtain ⟨z, hz, hj⟩ := List.mem_flatMap.1 hj
    obtain ⟨hleaf, hroot⟩ := List.mem_ite_nil_right.1 hj
    simpa using (h z hz _ hleaf j hroot).symm
  have hparents : (seams.flatMap fun z => if n.identifier ∈ z.roots then z.leaves else []).filter
      (·.serviceGroup = n.identifier.serviceGroup) = [] := by
    rw [List.filter_eq_nil_iff]
    intro i hi
    obtain ⟨z, hz, hi⟩ := List.mem_flatMap.1 hi
    obtain ⟨hroot, hleaf⟩ := List.mem_ite_nil_right.1 hi
    simpa using h z hz i hleaf _ hroot
  unfold within stitch
  simp only [List.filter_append, hchildren, hparents, List.append_nil]

namespace Assembly.Underway
variable {pipelines : Pipelines} {V W : List Visit} {a : Assembly}
  (h : Underway pipelines [] V W a)
include h

/-- Of the nodes of a service in a graph, those that its pipeline contributes are left without the other
services. -/
theorem map_within_nodesOf {v : Visit} (hv : v ∈ V) :
    (a.graph.nodesOf v.group).map (Node.within v.group) = blockOf pipelines v.group := by
  have hblock := isBlock_blockOf pipelines
  have hseams : ∀ z ∈ W.map (seamOf (blockOf pipelines) V), ∀ i ∈ z.leaves, ∀ j ∈ z.roots,
      i.serviceGroup ≠ j.serviceGroup := by
    intro z hz i hi j hj heq
    obtain ⟨w, hw, rfl⟩ := List.mem_map.1 hz
    have hlt := h.position_lt_of_mem_frontier ((mem_joined h.joined).1 hw).1 hi hj
    rw [heq] at hlt
    exact Nat.lt_irrefl _ hlt
  rw [h.assembled.nodesOf_eq hv, List.map_map]
  refine (List.map_congr_left fun n hn => ?_).trans (List.map_id _)
  rw [Function.comp_apply, ← (hblock v.group).serviceGroup_eq n hn, Node.within_stitch hseams,
    (hblock v.group).serviceGroup_eq n hn]
  exact (hblock v.group).within_eq hn

end Assembly.Underway

/-! ## Parts of a graph -/

/-- A graph is the part of another one that belongs to a service. Where its resource groups deploy to is
what the other graph has recorded, possibly in another order. -/
structure Graph.IsPartOf (part g : Graph) (serviceGroup : String) : Prop where
  nodes : part.nodes = (g.nodesOf serviceGroup).map (Node.within serviceGroup)
  steps : part.steps = g.steps.filter (·.1 = serviceGroup)
  validationSteps : part.validationSteps = g.validationSteps.filter (·.1.serviceGroup = serviceGroup)
  declares_iff : ∀ name, name ∈ part.resourceGroups.keys ↔ serviceGroup ∈ g.ownersOf name
  target_agrees : ∀ name target, part.resourceGroups.lookup name = some target →
    ∃ recorded, g.resourceGroups.lookup name = some recorded ∧ recorded.agrees target

/-- The services of a graph are those that its entrypoints select. -/
theorem Graph.services_perm {t : Topology} {entrypoints : List Entrypoint} {pipelines : Pipelines}
    {g : Graph} (h : forEntrypoints t entrypoints pipelines = .ok g) :
    (g.services.map Prod.snd).Perm (t.selected entrypoints) := by
  obtain ⟨a, ha, hchecked⟩ := bind_eq_ok.1 h
  obtain ⟨rfl, -⟩ := checked_eq_ok hchecked
  exact (Assembly.keeps_of_addEntrypoints ha).services_perm
    (Assembly.assemblable_of_addEntrypoints ha).distinct

/-- A coherent pipeline without a cycle has a graph of its own. -/
theorem Graph.exists_forPipeline {s : Service} {p : Pipeline} (hgroup : p.serviceGroup = s.serviceGroup)
    (hcoherent : p.Coherent) (hacyclic : ¬ p.IsCyclic) :
    ∃ a, Assembly.addService (.single s.serviceGroup p) {} s.withoutChildren = .ok a ∧
      forPipeline s p = .ok a.graph ∧ a.graph.Records [p] := by
  have hlookup : (Pipelines.single s.serviceGroup p).lookup s.withoutChildren.serviceGroup = some p :=
    Pipelines.lookup_single s.serviceGroup p
  have hchecks := Assembly.checks_addService (Assembly.underway_empty (.single s.serviceGroup p))
    ⟨fun _ => rfl, fun _ => rfl, rfl⟩ s.withoutChildren
  have hone : withEarlier (serviceObjections (.single s.serviceGroup p)) [] s.withoutChildren.preorder =
      serviceObjections (.single s.serviceGroup p) [] s.withoutChildren := List.append_nil _
  have hclashes : p.clashes [] = [] :=
    (Pipeline.clashes_eq_nil_iff_lookup [] hcoherent.distinct_groups).2
      ⟨by simp [recordedTarget?], .inr rfl⟩
  have hnone : serviceObjections (.single s.serviceGroup p) [] s.withoutChildren = [] :=
    serviceObjections_eq_nil_iff.2 ⟨List.not_mem_nil, p, hlookup, hgroup, hcoherent, hclashes⟩
  obtain ⟨a, ha⟩ := hchecks.exists_ok_iff.2 (hone.trans hnone)
  refine ⟨a, ha, ?_, ?_⟩
  · have hresult : forPipeline s p = a.graph.checked := by
      rw [forPipeline, ha]
      rfl
    have hunderway := Assembly.underway_of_addService ha
    rcases hunderway.checked_cases with ⟨hok, -⟩ | ⟨path, -, hlasso⟩
    · exact hresult.trans hok
    · obtain ⟨s', hs', p', hp', hcyclic⟩ := hunderway.cyclic_iff.1 hlasso.not_acyclic
      obtain rfl := List.mem_singleton.1 hs'
      obtain rfl := Option.some.inj (hlookup.symm.trans hp')
      exact absurd hcyclic hacyclic
  · have hpipelines : (Pipelines.single s.serviceGroup p).ofServices [s.withoutChildren] = [p] := by
      simp [Pipelines.ofServices, hlookup]
    rw [← hpipelines]
    exact hchecks.property a ha

theorem Assembly.nodes_of_addService {s : Service} {p : Pipeline} {a : Assembly}
    (h : addService (.single s.serviceGroup p) {} s.withoutChildren = .ok a) :
    a.graph.nodes = blockOf (.single s.serviceGroup p) s.serviceGroup := by
  rw [(underway_of_addService h).assembled.nodes, layout, blocks, List.flatMap_singleton]
  refine (List.map_congr_left fun n _ => ?_).trans (List.map_id _)
  exact Node.stitch_eq_self (by simp)

/-- The resource groups of a pipeline deploy to where the graph of a rollout says. -/
theorem Topology.Assemblable.exists_recorded {t : Topology} {entrypoints : List Entrypoint}
    {pipelines : Pipelines} (h : t.Assemblable entrypoints pipelines) {p : Pipeline}
    (hp : p ∈ pipelines.ofServices (t.selected entrypoints)) {name : String}
    {target : ResourceGroupTarget} (htarget : p.targets.lookup name = some target) :
    ∃ recorded, recordedTarget? (pipelines.ofServices (t.selected entrypoints)) name = some recorded ∧
      recorded.agrees target := by
  have hsome : (recordedTarget? (pipelines.ofServices (t.selected entrypoints)) name).isSome :=
    List.findSome?_isSome_iff.2 ⟨p, hp, by rw [htarget]; rfl⟩
  obtain ⟨recorded, hrecorded⟩ := Option.isSome_iff_exists.1 hsome
  obtain ⟨q, hq, hfirst⟩ := List.exists_of_findSome?_eq_some hrecorded
  refine ⟨recorded, hrecorded, ResourceGroupTarget.agrees_iff.2 ?_⟩
  exact (Pipeline.agreesWith_iff (h.coherent q hq).distinct_groups (h.coherent p hp).distinct_groups).1
    (h.agreeing q hq p hp) name recorded target hfirst htarget

/-- A service that was put into the graph of a rollout has a graph of its own, and it is the part of the
other one that belongs to the service. -/
theorem Graph.forPipeline_of_forEntrypoints {t : Topology} {entrypoints : List Entrypoint}
    {pipelines : Pipelines} {g : Graph} (h : forEntrypoints t entrypoints pipelines = .ok g)
    {s : Service} (hs : s ∈ g.services.map Prod.snd) : ∃ p part,
      pipelines.lookup s.serviceGroup = some p ∧ forPipeline s p = .ok part ∧
        part.IsPartOf g s.serviceGroup := by
  rw [(services_perm h).mem_iff] at hs
  obtain ⟨a, ha, hchecked⟩ := bind_eq_ok.1 h
  obtain ⟨rfl, -⟩ := checked_eq_ok hchecked
  have hunderway := Assembly.underway_of_addEntrypoints ha
  have hkeeps := Assembly.keeps_of_addEntrypoints ha
  have hfit := Assembly.assemblable_of_addEntrypoints ha
  have hrecords := (Assembly.checks_addEntrypoints pipelines t entrypoints).property a ha
  obtain ⟨p, hp, hgroup⟩ := hfit.supplied s hs
  have hmem : p ∈ pipelines.ofServices (t.selected entrypoints) := List.mem_filterMap.2 ⟨s, hs, hp⟩
  obtain ⟨b, hb, hpart, hbrecords⟩ := exists_forPipeline hgroup (hfit.coherent p hmem)
    (not_isCyclic_of_forEntrypoints h hs hp)
  have hbkeeps := Assembly.keeps_addService (.empty _) hb
  have hlookup : pipelines.lookup s.serviceGroup =
      (Pipelines.single s.serviceGroup p).lookup s.serviceGroup := by
    rw [hp, Pipelines.lookup_single]
  refine ⟨p, b.graph, hp, hpart, ?_⟩
  have hsingle := filter_key_eq hfit.distinct hs
  have hrestrict := hkeeps.restrict fun group => decide (group = s.serviceGroup)
  rw [hsingle] at hrestrict
  constructor
  case nodes =>
    rw [← t.visits_services] at hs
    obtain ⟨v, hv, rfl⟩ := List.mem_map.1 hs
    rw [Assembly.nodes_of_addService hb, ← blockOf_congr hlookup]
    exact (hunderway.map_within_nodesOf hv).symm
  case steps =>
    refine hbkeeps.steps.trans (Eq.trans ?_ hrestrict.steps.symm)
    rw [List.flatMap_singleton, inventoryOf_congr hlookup]
    rfl
  case validationSteps =>
    refine hbkeeps.validationSteps.trans (Eq.trans ?_ hrestrict.validationSteps.symm)
    rw [List.flatMap_singleton, inventoryOf_congr hlookup]
    exact congrArg Sorted.ofPairs (List.append_nil _)
  case declares_iff =>
    intro name
    rw [hrecords.owners, mem_recordedOwners, ← SortedMap.isSome_lookup_iff, hbrecords.target,
      recordedTarget?, List.findSome?_singleton, Sorted.isSome_lookup_iff]
    constructor
    · intro hname
      exact ⟨p, hmem, hname, hgroup⟩
    · rintro ⟨q, hq, hname, hqgroup⟩
      obtain ⟨s', hs', hq⟩ := List.mem_filterMap.1 hq
      obtain ⟨q', hq', hq'group⟩ := hfit.supplied s' hs'
      obtain rfl := Option.some.inj (hq.symm.trans hq')
      rw [hq'group.symm.trans hqgroup, hp] at hq
      rwa [Option.some.inj hq]
  case target_agrees =>
    intro name target htarget
    rw [hbrecords.target, recordedTarget?, List.findSome?_singleton] at htarget
    obtain ⟨recorded, hrecorded, hagrees⟩ := hfit.exists_recorded hmem htarget
    exact ⟨recorded, (hrecords.target name).trans hrecorded, hagrees⟩

theorem Graph.forPipeline_in_small_rollout : ∃ g s,
    forEntrypoints SmallRollout.topology SmallRollout.entrypoints SmallRollout.pipelines = .ok g ∧
      s ∈ g.services.map Prod.snd ∧ s.serviceGroup = "dns" ∧ ∃ p part,
        SmallRollout.pipelines.lookup s.serviceGroup = some p ∧ forPipeline s p = .ok part ∧
          part.IsPartOf g s.serviceGroup := by
  obtain ⟨g, hg, _⟩ := SmallRollout.exists_graph
  have hs : { serviceGroup := "dns" } ∈ g.services.map Prod.snd := by
    rw [(services_perm hg).mem_iff, ← Topology.visits_services, SmallRollout.visits_eq]
    simp [SmallRollout.visits]
  exact ⟨g, _, hg, hs, rfl, forPipeline_of_forEntrypoints hg hs⟩

end RolloutPlan
