import RolloutPlan.Proofs.Neighbours
import RolloutPlan.Proofs.RolloutObjections
import RolloutPlan.Proofs.Search

/-!
# What an assembled graph represents

A graph can be built in three ways. Whichever it is, and whether the graph is returned or comes
with a cycle, it represents the services that were put into it.

* `GraphSource`: the three ways. `GraphSource.Assembles`: a graph is built. `GraphSource.assembly`: the
  run of the assembly that it takes.
* `GraphSource.Assembles.underway`: the graph is the end of a run of the assembly.
* `Graph.Represents`: the nodes, their neighbours and the definitions of their steps.
-/

namespace RolloutPlan

set_option autoImplicit false

/-! ## Sources -/

/-- What a graph is built from: a service alone, a sub-tree, or several sub-trees. -/
inductive GraphSource where
  | pipeline (s : Service) (p : Pipeline)
  | entrypoint (t : Topology) (e : Entrypoint) (pipelines : Pipelines)
  | entrypoints (t : Topology) (entrypoints : List Entrypoint) (pipelines : Pipelines)

namespace GraphSource

def result : GraphSource → Except GraphError Graph
  | pipeline s p => Graph.forPipeline s p
  | entrypoint t e pipelines => Graph.forEntrypoint t e pipelines
  | entrypoints t l pipelines => Graph.forEntrypoints t l pipelines

def pipelines : GraphSource → Pipelines
  | pipeline s p => .single s.serviceGroup p
  | entrypoint _ _ pipelines => pipelines
  | entrypoints _ _ pipelines => pipelines

/-- The services that are put into the graph, in their order. -/
def services : GraphSource → List Service
  | pipeline s _ => [s.withoutChildren]
  | entrypoint t e _ => t.selected [e]
  | entrypoints t l _ => t.selected l

/-- These services with what is above them. -/
def visits : GraphSource → List Visit
  | pipeline s _ => [⟨s.withoutChildren, []⟩]
  | entrypoint t e _ => t.visits [e]
  | entrypoints t l _ => t.visits l

theorem visits_services : ∀ r : GraphSource, r.visits.map Visit.service = r.services
  | pipeline _ _ => rfl
  | entrypoint t e _ => t.visits_services [e]
  | entrypoints t l _ => t.visits_services l

/-- The graph is returned or comes with a cycle. -/
def Assembles (r : GraphSource) (g : Graph) : Prop :=
  r.result = .ok g ∨ ∃ path, r.result = .error (.cycle path g)

end GraphSource

theorem Graph.checked_eq_ok {g g' : Graph} (h : g.checked = .ok g') :
    g' = g ∧ findObstacle? g.nodes = none := by
  unfold checked at h
  split at h
  · exact ⟨(Except.ok.inj h).symm, ‹_›⟩
  · cases h
  · cases h

theorem Graph.checked_eq_cycle {g g' : Graph} {path : List Identifier}
    (h : g.checked = .error (.cycle path g')) :
    g' = g ∧ findObstacle? g.nodes = some (.cycle path) := by
  unfold checked at h
  split at h
  · cases h
  · obtain ⟨rfl, rfl⟩ := GraphError.cycle.inj (Except.error.inj h)
    exact ⟨rfl, ‹_›⟩
  · cases h

theorem eq_of_bind_checked {x : Except GraphError Assembly}
    (hx : ∀ e, x = .error e → e.graph? = none) {g : Graph}
    (h : (x >>= fun a => a.graph.checked) = .ok g ∨
      ∃ path, (x >>= fun a => a.graph.checked) = .error (.cycle path g)) :
    ∃ a, x = .ok a ∧ a.graph = g := by
  cases x with
  | error e =>
    rcases h with h | ⟨path, h⟩
    · cases h
    · obtain rfl := Except.error.inj h
      cases hx _ rfl
  | ok a =>
    refine ⟨a, rfl, ?_⟩
    rcases h with h | ⟨path, h⟩
    · exact (Graph.checked_eq_ok h).1.symm
    · exact (Graph.checked_eq_cycle h).1.symm

namespace GraphSource

/-- The run of the assembly that comes before the search for cycles. -/
def assembly : GraphSource → Except GraphError Assembly
  | pipeline s p => Assembly.addService (.single s.serviceGroup p) {} s.withoutChildren
  | entrypoint t e pipelines => Assembly.addEntrypoints pipelines t {} [e]
  | entrypoints t l pipelines => Assembly.addEntrypoints pipelines t {} l

theorem result_eq (r : GraphSource) : r.result = r.assembly >>= fun a => a.graph.checked := by
  cases r <;> rfl

theorem underway_of_assembly : ∀ {r : GraphSource} {a : Assembly}, r.assembly = .ok a →
    ∃ W, Assembly.Underway r.pipelines [] r.visits W a
  | pipeline _ _, _, h => ⟨[], Assembly.underway_of_addService h⟩
  | entrypoint _ _ _, _, h => ⟨_, Assembly.underway_of_addEntrypoints h⟩
  | entrypoints _ _ _, _, h => ⟨_, Assembly.underway_of_addEntrypoints h⟩

theorem graph?_eq_none_of_assembly : ∀ {r : GraphSource} {e : GraphError}, r.assembly = .error e →
    e.graph? = none
  | pipeline _ _, _, h => Assembly.graph?_eq_none_of_addService h
  | entrypoint _ _ _, _, h => Assembly.graph?_eq_none_of_addEntrypoints h
  | entrypoints _ _ _, _, h => Assembly.graph?_eq_none_of_addEntrypoints h

theorem Assembles.exists_assembly {r : GraphSource} {g : Graph} (h : r.Assembles g) :
    ∃ a, r.assembly = .ok a ∧ a.graph = g := by
  unfold Assembles at h
  rw [r.result_eq] at h
  exact eq_of_bind_checked (fun _ => graph?_eq_none_of_assembly) h

/-- A graph that is built is the end of a run of the assembly. -/
theorem Assembles.underway {r : GraphSource} {g : Graph} (h : r.Assembles g) :
    ∃ W a, Assembly.Underway r.pipelines [] r.visits W a ∧ a.graph = g := by
  obtain ⟨a, ha, hg⟩ := h.exists_assembly
  obtain ⟨W, hunderway⟩ := underway_of_assembly ha
  exact ⟨W, a, hunderway, hg⟩

end GraphSource

theorem Graph.forEntrypoints_eq_checked {t : Topology} {entrypoints : List Entrypoint}
    {pipelines : Pipelines} {a : Assembly}
    (h : Assembly.addEntrypoints pipelines t {} entrypoints = .ok a) :
    forEntrypoints t entrypoints pipelines = a.graph.checked := by
  rw [forEntrypoints, h]
  rfl

theorem Graph.forEntrypoints_eq_ok {t : Topology} {entrypoints : List Entrypoint}
    {pipelines : Pipelines} {a : Assembly}
    (h : Assembly.addEntrypoints pipelines t {} entrypoints = .ok a)
    (hnodes : findObstacle? a.graph.nodes = none) :
    forEntrypoints t entrypoints pipelines = .ok a.graph := by
  rw [forEntrypoints_eq_checked h, checked, hnodes]

/-! ## A small rollout -/

namespace SmallRollout

def step (name : String) (dependsOn : List StepReference) : Step :=
  ⟨{ name, dependsOn }, .resourceProviderRegistration {}⟩

def pipeline (serviceGroup : String) (steps : List Step) : Pipeline where
  serviceGroup
  resourceGroups := [{ target := ⟨"rg", "rg", "subscription", []⟩, steps }]

/-- A service with two services under it, of which the first one has a service under it. -/
def network : Service where
  serviceGroup := "network"
  children := [
    { serviceGroup := "cluster", children := [{ serviceGroup := "workload" }] },
    { serviceGroup := "dns" }]

def topology : Topology := { services := [network] }

def entrypoints : List Entrypoint := [{ identifier := "network" }]

/-- The second service has no steps. -/
def pipelines : Pipelines where
  entries :=
    [("cluster", pipeline "cluster" []),
      ("dns", pipeline "dns" [step "zone" []]),
      ("network", pipeline "network" [step "create" [], step "peer" [⟨"rg", "create"⟩]]),
      ("workload", pipeline "workload" [step "deploy" []])]
  increasing := by decide

def nodes : List Node :=
  [⟨⟨"network", "rg", "create"⟩, [⟨"network", "rg", "peer"⟩], []⟩,
    ⟨⟨"network", "rg", "peer"⟩, [⟨"workload", "rg", "deploy"⟩, ⟨"dns", "rg", "zone"⟩],
      [⟨"network", "rg", "create"⟩]⟩,
    ⟨⟨"workload", "rg", "deploy"⟩, [], [⟨"network", "rg", "peer"⟩]⟩,
    ⟨⟨"dns", "rg", "zone"⟩, [], [⟨"network", "rg", "peer"⟩]⟩]

def visits : List Visit :=
  [⟨network, []⟩,
    ⟨{ serviceGroup := "cluster", children := [{ serviceGroup := "workload" }] }, ["network"]⟩,
    ⟨{ serviceGroup := "workload" }, ["cluster", "network"]⟩,
    ⟨{ serviceGroup := "dns" }, ["network"]⟩]

theorem visits_eq : topology.visits entrypoints = visits := by
  cbv

theorem exists_assembly : ∃ a, Assembly.addEntrypoints pipelines topology {} entrypoints = .ok a ∧
    a.graph.nodes = nodes ∧ a.graph.step? ⟨"dns", "rg", "zone"⟩ = some (step "zone" []) := by
  have h : ((Assembly.addEntrypoints pipelines topology {} entrypoints).map fun a =>
      (a.graph.nodes, a.graph.step? ⟨"dns", "rg", "zone"⟩)) =
      .ok (nodes, some (step "zone" [])) := by
    cbv
  obtain ⟨a, ha, heq⟩ := map_eq_ok.1 h
  exact ⟨a, ha, Prod.mk.inj heq⟩

theorem findObstacle?_nodes : findObstacle? nodes = none := by
  simp [findObstacle?, ChildIndex.exploreAll, ChildIndex.ofNodes, nodes, ChildIndex.explore_cons,
    ChildIndex.explore, Std.HashMap.getElem_insert]

theorem exists_graph : ∃ g, Graph.forEntrypoints topology entrypoints pipelines = .ok g ∧
    g.nodes = nodes ∧ g.step? ⟨"dns", "rg", "zone"⟩ = some (step "zone" []) := by
  obtain ⟨a, ha, hnodes, hstep⟩ := exists_assembly
  refine ⟨a.graph, Graph.forEntrypoints_eq_ok ha ?_, hnodes, hstep⟩
  rw [hnodes, findObstacle?_nodes]

end SmallRollout

/-! ## The representation -/

/-- The identifiers of the steps that the pipeline of a service declares. -/
def Pipelines.identifiersOf (pipelines : Pipelines) (group : String) : List Identifier :=
  match pipelines.lookup group with
  | none => []
  | some p => p.references.map (.ofReference group)

/-- The nodes of a service. -/
def Graph.nodesOf (g : Graph) (group : String) : List Node :=
  g.nodes.filter fun n => n.identifier.serviceGroup = group

/-- A graph has the steps of some services, in the order of the services. -/
structure Graph.Represents (g : Graph) (services : List Service) (pipelines : Pipelines) : Prop where
  recorded : ∀ group, group ∈ g.services.keys ↔ group ∈ services.map Service.serviceGroup
  distinct_services : (services.map Service.serviceGroup).Nodup
  /-- Every service has a pipeline. -/
  supplied : ∀ s ∈ services, ∃ p, pipelines.lookup s.serviceGroup = some p
  distinct : (g.nodes.map Node.identifier).Nodup
  /-- There is one node for every declared step. -/
  declared : (g.nodes.map Node.identifier).Perm
    (services.flatMap fun s => pipelines.identifiersOf s.serviceGroup)
  consecutive : g.nodes = services.flatMap fun s => g.nodesOf s.serviceGroup
  increasing : ∀ s ∈ services, ((g.nodesOf s.serviceGroup).map Node.identifier).Pairwise (· < ·)
  children_mem : ∀ n ∈ g.nodes, ∀ j ∈ n.children, j ∈ g.nodes.map Node.identifier
  parents_mem : ∀ n ∈ g.nodes, ∀ j ∈ n.parents, j ∈ g.nodes.map Node.identifier
  children_nodup : ∀ n ∈ g.nodes, n.children.Nodup
  parents_nodup : ∀ n ∈ g.nodes, n.parents.Nodup
  symmetric : ∀ m ∈ g.nodes, ∀ n ∈ g.nodes, m.identifier ∈ n.children ↔ n.identifier ∈ m.parents
  isSome_step? : ∀ i, (g.step? i).isSome ↔ i ∈ g.nodes.map Node.identifier
  step?_declared : ∀ i s, g.step? i = some s → pipelines.Declares i s

theorem Supplied.identifiers_perm {pipelines : Pipelines} {group : String}
    (h : Supplied pipelines group) :
    ((blockOf pipelines group).map Node.identifier).Perm (pipelines.identifiersOf group) := by
  obtain ⟨p, c, hp, rfl, hblock, _, hc⟩ := h.exists_presents
  rw [hblock, Pipelines.identifiersOf, hp]
  exact hc.identifiers_perm

namespace Assembly.Assembled
variable {pipelines : Pipelines} {V W : List Visit} {a : Assembly} (h : Assembled pipelines V W a)
include h

theorem nodesOf_eq {v : Visit} (hv : v ∈ V) : a.graph.nodesOf v.group =
    (blockOf pipelines v.group).map (Node.stitch (W.map (seamOf (blockOf pipelines) V))) := by
  rw [Graph.nodesOf, h.nodes]
  exact filter_layout (isBlock_blockOf pipelines) h.preordered hv

theorem nodes_eq_flatMap : a.graph.nodes = V.flatMap fun v => a.graph.nodesOf v.group := by
  have hnodes : ∀ v ∈ V, a.graph.nodesOf v.group = (blockOf pipelines v.group).map
      (Node.stitch (W.map (seamOf (blockOf pipelines) V))) := fun v hv => h.nodesOf_eq hv
  rw [List.flatMap_congr hnodes, h.nodes, layout, blocks, List.map_flatMap]

theorem map_identifier_nodesOf {v : Visit} (hv : v ∈ V) :
    (a.graph.nodesOf v.group).map Node.identifier =
      (blockOf pipelines v.group).map Node.identifier := by
  rw [h.nodesOf_eq hv, Node.map_identifier_stitch]

theorem mem_identifiers_iff {i : Identifier} : i ∈ a.graph.nodes.map Node.identifier ↔
    i.serviceGroup ∈ V.map Visit.group ∧ ∃ s, pipelines.Declares i s := by
  rw [h.map_identifier_nodes, blocks, List.map_flatMap, List.mem_flatMap]
  constructor
  · rintro ⟨v, hv, hi⟩
    obtain ⟨hgroup, hs⟩ := (h.supplied v hv).mem_block_iff.1 hi
    exact ⟨hgroup ▸ List.mem_map_of_mem hv, hs⟩
  · rintro ⟨hgroup, hs⟩
    obtain ⟨v, hv, hgroup⟩ := List.mem_map.1 hgroup
    exact ⟨v, hv, (h.supplied v hv).mem_block_iff.2 ⟨hgroup.symm, hs⟩⟩

end Assembly.Assembled

/-- The end of a run of the assembly represents its visits. -/
theorem Assembly.Underway.represents_visits {pipelines : Pipelines} {V W : List Visit} {a : Assembly}
    (h : Underway pipelines [] V W a) : a.graph.Represents (V.map Visit.service) pipelines := by
  have hblock := isBlock_blockOf pipelines
  have hV := h.assembled.preordered
  have hnodes := h.assembled.nodes
  constructor
  case recorded =>
    intro group
    rw [h.assembled.services, List.map_map]
    rfl
  case distinct_services =>
    rw [List.map_map]
    exact hV.nodup
  case supplied =>
    intro s hs
    obtain ⟨v, hv, rfl⟩ := List.mem_map.1 hs
    obtain ⟨p, _, hp, _⟩ := (h.assembled.supplied v hv).exists_presents
    exact ⟨p, hp⟩
  case distinct => exact h.assembled.indexed.nodup
  case declared =>
    rw [h.assembled.map_identifier_nodes, blocks, List.map_flatMap, List.flatMap_map]
    exact List.Perm.flatMap_left V fun v hv => (h.assembled.supplied v hv).identifiers_perm
  case consecutive =>
    rw [List.flatMap_map]
    exact h.assembled.nodes_eq_flatMap
  case increasing =>
    intro s hs
    obtain ⟨v, hv, rfl⟩ := List.mem_map.1 hs
    show ((a.graph.nodesOf v.group).map Node.identifier).Pairwise (· < ·)
    rw [h.assembled.map_identifier_nodesOf hv]
    exact (hblock _).increasing
  case children_mem =>
    rw [hnodes]
    intro n hn j hj
    exact neighbour_mem_layout hblock hV h.joined hn (.inl hj)
  case parents_mem =>
    rw [hnodes]
    intro n hn j hj
    exact neighbour_mem_layout hblock hV h.joined hn (.inr hj)
  case children_nodup =>
    rw [hnodes]
    intro n hn
    exact nodup_children_layout hblock hV h.joined hn
  case parents_nodup =>
    rw [hnodes]
    intro n hn
    exact nodup_parents_layout hblock hV h.joined hn
  case symmetric =>
    rw [hnodes]
    intro m hm n hn
    exact symmetric_layout hblock hm hn
  case isSome_step? =>
    intro i
    rw [h.assembled.mem_identifiers_iff, Option.isSome_iff_exists]
    simp only [h.assembled.steps]
    exact exists_and_left
  case step?_declared =>
    intro i s hs
    exact ((h.assembled.steps i s).1 hs).2

/-- A graph that is built represents what it is built from. -/
theorem GraphSource.represents_of_assembles {r : GraphSource} {g : Graph} (h : r.Assembles g) :
    g.Represents r.services r.pipelines := by
  obtain ⟨W, a, ha, rfl⟩ := h.underway
  rw [← r.visits_services]
  exact ha.represents_visits

theorem GraphSource.represents_small_rollout : ∃ g,
    (entrypoints SmallRollout.topology SmallRollout.entrypoints SmallRollout.pipelines).Assembles g ∧
      g.Represents (SmallRollout.topology.selected SmallRollout.entrypoints)
        SmallRollout.pipelines := by
  obtain ⟨g, hg, _⟩ := SmallRollout.exists_graph
  have h : (entrypoints SmallRollout.topology SmallRollout.entrypoints
      SmallRollout.pipelines).Assembles g := .inl hg
  exact ⟨g, h, represents_of_assembles h⟩

end RolloutPlan
