import RolloutPlan.Proofs.Block
import RolloutPlan.Proofs.Linking

/-!
# What assembly puts together

A graph under construction is described by the visits so far: its nodes are the blocks of the visited
services, joined at the visits that have been left. One step of the assembly adds a block or a seam,
and a run adds those of all visits.

* `Assembled`: the description. `Underway` says also which branch has not been left.
* `book`, `record_eq`, `book_spec`: a service is recorded without its nodes, and then these are pushed.
  `Underway.record`: recording a service adds its block.
* `Underway.link_eq`, `Underway.join`: linking the roots of a service adds its seam.
* `addService_underway`, `addEntrypoints_underway`: a sub-tree, and all sub-trees that are selected.
* `underway_of_addEntrypoints`: the nodes of a whole graph are the layout of its visits.
-/

namespace RolloutPlan

set_option autoImplicit false

namespace Assembly

/-! ## Recording a service -/

theorem addTarget_frame {group name : String} {target : ResourceGroupTarget} {g g' : Graph}
    (h : addTarget group g name target = .ok g') :
    g' = { g with owners := g'.owners, resourceGroups := g'.resourceGroups } := by
  unfold addTarget at h
  simp only at h
  split at h
  · obtain rfl := Except.ok.inj h
    rfl
  · split_ifs at h
    obtain rfl := Except.ok.inj h
    rfl

theorem addTargets_frame {group : String} :
    ∀ {l : List (String × ResourceGroupTarget)} {g g' : Graph}, addTargets group g l = .ok g' →
      g' = { g with owners := g'.owners, resourceGroups := g'.resourceGroups }
  | [], g, g', h => by
    obtain rfl := Except.ok.inj h
    rfl
  | (name, target) :: l, g, g', h => by
    rw [addTargets, bind_eq_ok] at h
    obtain ⟨g₁, h₁, h⟩ := h
    rw [addTargets_frame h, addTarget_frame h₁]

theorem addSubscription_frame {g g' : Graph} {s : Option Subscription}
    (h : addSubscription g s = .ok g') : g' = { g with subscription := g'.subscription } := by
  unfold addSubscription at h
  split at h
  · obtain rfl := Except.ok.inj h
    rfl
  · cases h
  · obtain rfl := Except.ok.inj h
    rfl

/-- Records a service without its nodes, which are left to be pushed. -/
def book (pipelines : Pipelines) (a : Assembly) (s : Service) :
    Except GraphError (Assembly × List Node) := do
  if (a.graph.services.lookup s.serviceGroup).isSome then
    throw (.duplicateService s.serviceGroup)
  let c ← contributionOf pipelines s.serviceGroup
  let d := c.inventory
  let services := Sorted.put s.serviceGroup s a.graph.services
  let g ← addTargets s.serviceGroup { a.graph with services } d.resourceGroups.entries
  let g ← addSubscription g d.subscription
  let g := { g with
    steps := Sorted.put s.serviceGroup d.steps g.steps
    validationSteps :=
      d.validationSteps.entries.foldl (fun m e => Sorted.put e.1 e.2 m) g.validationSteps }
  return ({ a with graph := g }, c.nodes)

theorem record_eq (pipelines : Pipelines) (a : Assembly) (s : Service) :
    a.record pipelines s = (a.book pipelines s).map fun booked => booked.2.foldl push booked.1 := by
  change _ = (fun booked => booked.2.foldl push booked.1) <$> a.book pipelines s
  unfold record book contributionOf addContribution
  split_ifs
  · rfl
  · simp only [bind_assoc, map_bind, map_pure]

theorem book_spec {pipelines : Pipelines} {a b : Assembly} {s : Service} {nodes : List Node}
    (h : a.book pipelines s = .ok (b, nodes)) :
    s.serviceGroup ∉ a.graph.services.keys ∧
      ∃ c, contributionOf pipelines s.serviceGroup = .ok c ∧ nodes = c.nodes ∧
        b.index = a.index ∧ b.graph.nodes = a.graph.nodes ∧
        b.graph.services = Sorted.put s.serviceGroup s a.graph.services ∧
        b.graph.steps = Sorted.put s.serviceGroup c.inventory.steps a.graph.steps ∧
        b.graph.validationSteps = c.inventory.validationSteps.entries.foldl
          (fun m e => Sorted.put e.1 e.2 m) a.graph.validationSteps := by
  unfold book at h
  split_ifs at h with hknown
  · exact absurd h throw_bind_ne_ok
  · simp only [bind_eq_ok] at h
    obtain ⟨c, hc, g₁, h₁, g₂, h₂, h⟩ := h
    obtain ⟨rfl, rfl⟩ := Prod.mk.inj (Except.ok.inj h)
    refine ⟨fun hmem => hknown (SortedMap.isSome_lookup_iff.2 hmem), c, hc, rfl, rfl, ?_⟩
    rw [addSubscription_frame h₂, addTargets_frame h₁]
    exact ⟨rfl, rfl, rfl, rfl⟩

theorem record_eq_ok {pipelines : Pipelines} {a a' : Assembly} {s : Service} :
    a.record pipelines s = .ok a' ↔
      ∃ b nodes, a.book pipelines s = .ok (b, nodes) ∧ nodes.foldl push b = a' := by
  rw [record_eq, map_eq_ok, Prod.exists]

/-! ## The description of an assembly -/

/-- A graph under construction has the blocks of the visited services, joined where a visit has been
left. -/
structure Assembled (pipelines : Pipelines) (V W : List Visit) (a : Assembly) : Prop where
  preordered : Preordered V
  supplied : ∀ v ∈ V, Supplied pipelines v.group
  services : ∀ group, group ∈ a.graph.services.keys ↔ group ∈ V.map Visit.group
  steps : ∀ i s, a.graph.step? i = some s ↔
    i.serviceGroup ∈ V.map Visit.group ∧ Pipelines.Declares pipelines i s
  indexed : a.Indexed
  nodes : a.graph.nodes = layout (blockOf pipelines) V W

/-- An assembly that has not left a branch yet. -/
structure Underway (pipelines : Pipelines) (branch : List String) (V W : List Visit)
    (a : Assembly) : Prop where
  assembled : Assembled pipelines V W a
  joined : JoinedBut branch V W
  isOpen : branch <:+ openAfter V

theorem underway_empty (pipelines : Pipelines) : Underway pipelines [] [] [] {} := by
  refine ⟨⟨.nil, by simp, by simp, ?_, indexed_empty, rfl⟩, .nil, List.nil_suffix⟩
  intro i s
  simp [Graph.step?, bind]

theorem step?_eq (g : Graph) (i : Identifier) : g.step? i =
    (g.steps.lookup i.serviceGroup).bind (·.find? i.reference) := rfl

namespace Assembled
variable {pipelines : Pipelines} {V W : List Visit} {a : Assembly} (h : Assembled pipelines V W a)
include h

theorem map_identifier_nodes : a.graph.nodes.map Node.identifier =
    (blocks (blockOf pipelines) V).map Node.identifier := by
  rw [h.nodes, layout, Node.map_identifier_stitch]

theorem identifiers_eq : a.identifiers = (blocks (blockOf pipelines) V).map Node.identifier :=
  h.map_identifier_nodes

theorem mem_identifiers_of_mem_block {v : Visit} (hv : v ∈ V) {n : Node}
    (hn : n ∈ blockOf pipelines v.group) : n.identifier ∈ a.identifiers := by
  rw [h.identifiers_eq]
  exact List.mem_map_of_mem (mem_blocks.2 ⟨v, hv, hn⟩)

theorem mem_identifiers_of_mem_frontier {above : List String} {i : Identifier}
    (hi : i ∈ frontier (blockOf pipelines) V above) : i ∈ a.identifiers := by
  cases above with
  | nil => exact absurd hi List.not_mem_nil
  | cons p ancestors =>
    obtain ⟨⟨n, hn, rfl, _⟩, _⟩ := mem_frontier.1 hi
    obtain ⟨v, hv, hn⟩ := mem_blocks.1 hn
    exact h.mem_identifiers_of_mem_block hv hn

end Assembled

/-- Recording the steps of a service adds the steps that its pipeline declares. -/
theorem step?_put {pipelines : Pipelines} {V : List Visit} {v : Visit} {g : Graph}
    (hg : ∀ i s, g.step? i = some s ↔
      i.serviceGroup ∈ V.map Visit.group ∧ Pipelines.Declares pipelines i s)
    {c : Contribution} (hc : contributionOf pipelines v.group = .ok c) {g' : Graph}
    (hsteps : g'.steps = Sorted.put v.group c.inventory.steps g.steps) {i : Identifier} {s : Step} :
    g'.step? i = some s ↔
      i.serviceGroup ∈ (V ++ [v]).map Visit.group ∧ Pipelines.Declares pipelines i s := by
  rw [step?_eq, hsteps, List.map_append, List.mem_append, List.map_singleton, List.mem_singleton]
  by_cases hi : i.serviceGroup = v.group
  · rw [hi, Sorted.lookup_put_self, Option.bind_some]
    rw [← hi] at hc
    refine (find?_eq_some_iff_declares hc).trans ?_
    simp
  · rw [Sorted.lookup_put_of_ne hi]
    refine (hg i s).trans ?_
    simp only [hi, or_false]

/-! ## Steps -/

namespace Underway
variable {pipelines : Pipelines} {V W : List Visit} {a a' : Assembly}

/-- Recording a service adds its block. -/
theorem record {above : List String} {s : Service} (h : Underway pipelines above V W a)
    (ha : a.record pipelines s = .ok a') :
    Underway pipelines (s.serviceGroup :: above) (V ++ [⟨s, above⟩]) W a' := by
  obtain ⟨b, _, hb, rfl⟩ := record_eq_ok.1 ha
  obtain ⟨hnew, c, hc, rfl, hindex, hnodes, hservices, hsteps, _⟩ := book_spec hb
  rw [h.assembled.services] at hnew
  have hblock := isBlock_blockOf pipelines
  have hV : Preordered (V ++ [⟨s, above⟩]) := .snoc h.assembled.preordered hnew h.isOpen
  have hids : b.identifiers = a.identifiers := congrArg (List.map Node.identifier) hnodes
  obtain ⟨hpushed, hgraph⟩ := foldl_push c.nodes (h.assembled.indexed.of_eq hindex hids) (by
    have hall := nodup_blocks hblock hV.nodup
    rw [blocks_snoc, List.map_append] at hall
    rw [hids, h.assembled.identifiers_eq, ← blockOf_eq hc]
    exact hall)
  refine ⟨?_, JoinedBut.enter (v := ⟨s, above⟩) h.joined hnew, ?_⟩
  · constructor
    case preordered => exact hV
    case supplied =>
      intro v hv
      rcases List.mem_append.1 hv with hv | hv
      · exact h.assembled.supplied v hv
      · rw [List.mem_singleton.1 hv]
        exact ⟨c, hc⟩
    case services =>
      intro group
      rw [hgraph, hservices, Sorted.mem_keys_put, h.assembled.services, List.map_append,
        List.mem_append, or_comm]
      simp [Visit.group]
    case steps =>
      intro i t
      rw [hgraph]
      exact step?_put (v := ⟨s, above⟩) h.assembled.steps hc hsteps
    case indexed => exact hpushed
    case nodes =>
      rw [hgraph, hnodes, h.assembled.nodes, layout_snoc hblock hV h.joined]
      exact congrArg _ (blockOf_eq hc).symm
  · rw [openAfter_snoc]
    exact List.suffix_rfl

/-- The leaves of an assembly that has just recorded a service are the frontier of the service. -/
theorem leaves_eq {above : List String} {s : Service}
    (h : Underway pipelines (s.serviceGroup :: above) (V ++ [⟨s, above⟩]) W a) :
    a.graph.leaves = frontier (blockOf pipelines) (V ++ [⟨s, above⟩]) (s.serviceGroup :: above) := by
  rw [Graph.leaves, h.assembled.nodes]
  exact leaves_layout (isBlock_blockOf pipelines) h.assembled.preordered h.joined

/-- Linking the roots of a service adds its seam. -/
theorem link_eq {v : Visit} (h : Underway pipelines (v.group :: v.above) V W a) (hv : v ∈ V) :
    a.link (frontier (blockOf pipelines) V v.above) (a.rootsOf v.group) =
      .ok (a.withNodes (layout (blockOf pipelines) V (W ++ [v]))) := by
  have hroots : a.rootsOf v.group = rootsIn (blockOf pipelines) v.group := by
    rw [rootsOf, h.assembled.nodes]
    exact roots_layout (isBlock_blockOf pipelines) h.assembled.preordered hv h.joined
      List.mem_cons_self
  have hblock := isBlock_blockOf pipelines
  have hlink := Assembly.link_eq h.assembled.indexed
    (nodup_frontier hblock h.assembled.preordered.nodup v.above) (nodup_rootsIn hblock v.group)
    (fun i hi => h.assembled.mem_identifiers_of_mem_frontier hi)
    (by
      intro i hi
      obtain ⟨n, hn, rfl, _⟩ := mem_rootsIn.1 hi
      exact h.assembled.mem_identifiers_of_mem_block hv hn)
  rw [hroots, hlink, layout_join, ← h.assembled.nodes]
  rfl

theorem join {v : Visit} (h : Underway pipelines (v.group :: v.above) V W a) (hv : v ∈ V)
    (habove : v.above ≠ [])
    (ha : a.link (frontier (blockOf pipelines) V v.above) (a.rootsOf v.group) = .ok a') :
    Underway pipelines v.above V (W ++ [v]) a' := by
  rw [h.link_eq hv] at ha
  obtain rfl := Except.ok.inj ha
  refine ⟨⟨h.assembled.preordered, h.assembled.supplied, h.assembled.services, h.assembled.steps,
    h.assembled.indexed.withNodes ?_, rfl⟩, h.joined.leave h.assembled.preordered hv habove, ?_⟩
  · rw [layout_join, ← h.assembled.nodes]
    exact Node.map_identifier_stitch _ _
  · exact (List.suffix_cons _ _).trans h.isOpen

end Underway

/-! ## Runs -/

theorem Underway.group_mem {pipelines : Pipelines} {p : String} {ancestors : List String}
    {V W : List Visit} {a : Assembly} (h : Underway pipelines (p :: ancestors) V W a) :
    p ∈ V.map Visit.group := by
  obtain ⟨V₀, u, rfl, hu⟩ := Preordered.exists_last h.isOpen
  have hmem : u ∈ V₀ ++ [u] := List.mem_append_right _ (List.mem_singleton_self u)
  rcases hu with ⟨rfl, _⟩ | hu
  · exact List.mem_map_of_mem hmem
  · exact (h.assembled.preordered.position_lt hmem (hu.subset List.mem_cons_self)).1

/-- Under a service that hangs off its frontier, another one is linked to the same frontier. -/
theorem Underway.join_child {pipelines : Pipelines} {p : String} {ancestors : List String}
    {V W W' : List Visit} {a a₁ : Assembly} (h : Underway pipelines (p :: ancestors) V W a)
    {s : Service} (h₁ : Underway pipelines (s.serviceGroup :: p :: ancestors)
      (V ++ s.visits (p :: ancestors)) W' a₁) :
    frontier (blockOf pipelines) (V ++ s.visits (p :: ancestors)) (p :: ancestors) =
        frontier (blockOf pipelines) V (p :: ancestors) ∧
      ∃ nodes, a₁.link (frontier (blockOf pipelines) V (p :: ancestors)) (a₁.rootsOf s.serviceGroup) =
          .ok (a₁.withNodes nodes) ∧
        Underway pipelines (p :: ancestors) (V ++ s.visits (p :: ancestors))
          (W' ++ [⟨s, p :: ancestors⟩]) (a₁.withNodes nodes) := by
  have hfrontier := frontier_append (isBlock_blockOf pipelines) h.assembled.preordered
    h₁.assembled.preordered.nodup h.group_mem ancestors
  have hv : ⟨s, p :: ancestors⟩ ∈ V ++ s.visits (p :: ancestors) := by
    rw [Service.visits_eq]
    simp
  have hlink := h₁.link_eq (v := ⟨s, p :: ancestors⟩) hv
  refine ⟨hfrontier, _, ?_, h₁.join (v := ⟨s, p :: ancestors⟩) hv (List.cons_ne_nil _ _) hlink⟩
  rw [← hfrontier]
  exact hlink

mutual
/-- Adding a sub-tree adds the blocks of its visits, and the seams of those under its root. -/
theorem addService_underway {pipelines : Pipelines} {above : List String} {V W : List Visit}
    {a a' : Assembly} (h : Underway pipelines above V W a) : ∀ {s : Service},
    addService pipelines a s = .ok a' →
      Underway pipelines (s.serviceGroup :: above) (V ++ s.visits above) (W ++ s.joins above) a'
  | ⟨group, purpose, path, children, metadata⟩, ha => by
    rw [addService, bind_eq_ok] at ha
    obtain ⟨a₁, ha₁, ha⟩ := ha
    have h₁ := h.record ha₁
    rw [Service.visits, Service.joins, List.append_cons]
    exact addChildren_underway h₁ h₁.leaves_eq ha
/-- Adding sub-trees under a service adds their blocks and seams. All of them hang off the frontier
that the service had when it was entered. -/
theorem addChildren_underway {pipelines : Pipelines} {p : String} {ancestors : List String}
    {V W : List Visit} {a a' : Assembly} {leaves : List Identifier}
    (h : Underway pipelines (p :: ancestors) V W a)
    (hleaves : leaves = frontier (blockOf pipelines) V (p :: ancestors)) : ∀ {l : List Service},
    addChildren pipelines leaves a l = .ok a' →
      Underway pipelines (p :: ancestors) (V ++ Service.visitsAll (p :: ancestors) l)
        (W ++ Service.joinsAll (p :: ancestors) l) a'
  | [], ha => by
    obtain rfl := Except.ok.inj ha
    simpa [Service.visitsAll, Service.joinsAll] using h
  | s :: l, ha => by
    simp only [addChildren, bind_eq_ok] at ha
    obtain ⟨a₁, ha₁, a₂, ha₂, ha⟩ := ha
    have h₁ := addService_underway h ha₁
    obtain ⟨hfrontier, nodes, hlink, h₂⟩ := h.join_child h₁
    rw [hleaves, hlink] at ha₂
    obtain rfl := Except.ok.inj ha₂
    have h₃ := addChildren_underway h₂ (hleaves.trans hfrontier.symm) ha
    rw [Service.visitsAll, Service.joinsAll]
    simpa [List.append_assoc] using h₃
end

/-- The sub-tree of an entrypoint is left without linking it to anything. -/
theorem addService_underway_root {pipelines : Pipelines} {V W : List Visit} {a a' : Assembly}
    (h : Underway pipelines [] V W a) {s : Service} (ha : addService pipelines a s = .ok a') :
    Underway pipelines [] (V ++ s.visits []) (W ++ s.joins []) a' := by
  have h₁ := addService_underway h ha
  have hv : ⟨s, []⟩ ∈ V ++ s.visits [] := by
    rw [Service.visits_eq]
    simp
  exact ⟨h₁.assembled, h₁.joined.leave_root (v := ⟨s, []⟩) h₁.assembled.preordered hv rfl,
    List.nil_suffix⟩

theorem addEntrypoints_underway {pipelines : Pipelines} {t : Topology} :
    ∀ {entrypoints : List Entrypoint} {V W : List Visit} {a a' : Assembly},
      Underway pipelines [] V W a → addEntrypoints pipelines t a entrypoints = .ok a' →
        Underway pipelines [] (V ++ t.visits entrypoints) (W ++ t.joins entrypoints) a'
  | [], V, W, a, a', h, ha => by
    obtain rfl := Except.ok.inj ha
    simpa [Topology.visits, Topology.joins] using h
  | e :: l, V, W, a, a', h, ha => by
    rw [addEntrypoints, Topology.lookup] at ha
    cases hs : t.lookup? e.identifier with
    | none =>
      rw [hs] at ha
      cases ha
    | some s =>
      simp only [hs, bind_eq_ok] at ha
      obtain ⟨a₁, ha₁, ha⟩ := ha
      have h₂ := addEntrypoints_underway (addService_underway_root h ha₁) ha
      simpa [Topology.visits, Topology.joins, hs, List.append_assoc] using h₂

/-- The nodes of a whole graph are the layout of its visits. -/
theorem underway_of_addEntrypoints {pipelines : Pipelines} {t : Topology}
    {entrypoints : List Entrypoint} {a : Assembly}
    (h : addEntrypoints pipelines t {} entrypoints = .ok a) :
    Underway pipelines [] (t.visits entrypoints) (t.joins entrypoints) a :=
  addEntrypoints_underway (underway_empty pipelines) h

theorem underway_of_addService {pipelines : Pipelines} {s : Service} {a : Assembly}
    (h : addService pipelines {} s.withoutChildren = .ok a) :
    Underway pipelines [] [⟨s.withoutChildren, []⟩] [] a := by
  have h₁ := addService_underway_root (underway_empty pipelines) h
  rwa [Service.visits_eq] at h₁

end Assembly

end RolloutPlan
