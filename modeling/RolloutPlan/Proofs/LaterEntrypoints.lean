import RolloutPlan.Proofs.Acyclicity
import RolloutPlan.Proofs.AssemblyOutcome
import RolloutPlan.Proofs.Bookkeeping
import RolloutPlan.Proofs.TopologySoundness

/-!
# What further entrypoints change

Further entrypoints come after what has been put together already. Steps of later services may hang off
earlier steps, which then have more children. No earlier step waits for anything new, and nothing that
was declared about earlier services changes.

* `layout_append`: later visits stitch on to the nodes that are there already.
* `Node.GainsChildren`, `Graph.ContinuedBy`: what may change in a node, and in a graph.
* `Assembly.addEntrypoints_append`: further entrypoints are added to what the first of them have left.
* `Assembly.continuedBy`: a graph is continued when further entrypoints are added.
* `Graph.forEntrypoints_append`: the graphs, and how building them fails.
-/

namespace RolloutPlan

set_option autoImplicit false

/-! ## Later visits -/

/-- Later visits stitch on to the nodes that are there already. -/
theorem layout_append {block : String → List Node} (hblock : ∀ group, IsBlock group (block group))
    {V U W : List Visit} (X : List Visit) (hV : Preordered V)
    (hU : ((V ++ U).map Visit.group).Nodup) (hW : ∀ w ∈ W, w ∈ V ∧ w.above ≠ []) :
    layout block (V ++ U) (W ++ X) =
      (layout block V W).map (Node.stitch (X.map (seamOf block (V ++ U)))) ++
        (blocks block U).map (Node.stitch ((W ++ X).map (seamOf block (V ++ U)))) := by
  unfold layout
  rw [blocks_append, List.map_append, List.map_map, List.map_append, map_seamOf_append hblock hV hU hW]
  congr 1
  apply List.map_congr_left
  intro n _
  exact Node.stitch_append _ _ n

/-- Visits that are joined later are later visits. -/
theorem JoinedBut.mem_later {V U W X : List Visit} (h : JoinedBut [] V W)
    (h' : JoinedBut [] (V ++ U) (W ++ X)) {x : Visit} (hx : x ∈ X) : x ∈ U ∧ x.above ≠ [] := by
  obtain ⟨hmem, habove⟩ := (mem_joined h').1 (List.mem_append_right W hx)
  refine ⟨(List.mem_append.1 hmem).resolve_left fun hV => ?_, habove⟩
  have hW := (mem_joined h).2 ⟨hV, habove⟩
  exact (List.nodup_append.1 h'.nodup).2.2 x hW x hx rfl

/-! ## What may change -/

/-- A node has gained children and is otherwise the same. -/
structure Node.GainsChildren (P : Identifier → Prop) (n m : Node) : Prop where
  identifier : m.identifier = n.identifier
  parents : m.parents = n.parents
  children : ∃ more, m.children = n.children ++ more ∧ ∀ j ∈ more, P j

/-- A step of a later service that waits for nothing in its own pipeline. The service is not one that was
asked for by name. -/
structure Graph.IsLaterRoot (g h : Graph) (later : List Entrypoint) (j : Identifier) : Prop where
  step : ∃ s, h.step? j = some s ∧ s.dependencySet = []
  new : j.serviceGroup ∉ g.services.keys
  below : j.serviceGroup ∉ later.map Entrypoint.identifier

/-- A graph goes on with further entrypoints. Its steps come first and gain children at most, and what it
keeps of its services is still kept of them. -/
structure Graph.ContinuedBy (g : Graph) (later : List Entrypoint) (h : Graph) : Prop where
  nodes : ∃ old new, h.nodes = old ++ new ∧
    List.Forall₂ (Node.GainsChildren (g.IsLaterRoot h later)) g.nodes old
  services : h.services.filter (·.1 ∈ g.services.keys) = g.services
  steps : h.steps.filter (·.1 ∈ g.services.keys) = g.steps
  validationSteps :
    h.validationSteps.filter (·.1.serviceGroup ∈ g.services.keys) = g.validationSteps
  target : ∀ name target, g.resourceGroups.lookup name = some target →
    h.resourceGroups.lookup name = some target
  subscription : ∀ s, g.subscription = some s → h.subscription = some s

/-- Seams on whose later side a node does not lie give it children only. -/
theorem Node.gainsChildren_stitch {P : Identifier → Prop} {seams : List Seam} {n : Node}
    (hroots : ∀ z ∈ seams, n.identifier ∉ z.roots) (hP : ∀ z ∈ seams, ∀ j ∈ z.roots, P j) :
    n.GainsChildren P (n.stitch seams) := by
  have hparents : (seams.flatMap fun z => if n.identifier ∈ z.roots then z.leaves else []) = [] := by
    rw [List.flatMap_eq_nil_iff]
    intro z hz
    rw [if_neg (hroots z hz)]
  refine ⟨rfl, ?_, _, rfl, ?_⟩
  · rw [stitch, hparents, List.append_nil]
  · intro j hj
    obtain ⟨z, hz, hj⟩ := List.mem_flatMap.1 hj
    exact hP z hz j (List.mem_ite_nil_right.1 hj).2

namespace Topology
variable {t : Topology}

@[simp] theorem visits_append (t : Topology) (l m : List Entrypoint) :
    t.visits (l ++ m) = t.visits l ++ t.visits m := List.flatMap_append

@[simp] theorem joins_append (t : Topology) (l m : List Entrypoint) :
    t.joins (l ++ m) = t.joins l ++ t.joins m := List.flatMap_append

/-- An entrypoint selects a sub-tree whose root stands under nothing. -/
theorem mem_visits_root {entrypoints : List Entrypoint} {e : Entrypoint} (he : e ∈ entrypoints)
    {s : Service} (hs : t.lookup? e.identifier = some s) :
    ⟨s, []⟩ ∈ t.visits entrypoints ∧ s.serviceGroup = e.identifier := by
  refine ⟨List.mem_flatMap.2 ⟨e, he, ?_⟩, ?_⟩
  · rw [hs, Option.map_some, Option.getD_some, s.visits_eq]
    exact List.mem_cons_self
  · rw [t.lookup?_eq] at hs
    simpa using List.find?_some hs

end Topology

namespace Assembly
variable {pipelines : Pipelines} {t : Topology}

/-- Further entrypoints are added to what the first of them have left. -/
theorem addEntrypoints_append (later : List Entrypoint) : ∀ (l : List Entrypoint) (a : Assembly),
    addEntrypoints pipelines t a (l ++ later) =
      addEntrypoints pipelines t a l >>= fun a' => addEntrypoints pipelines t a' later
  | [], _ => rfl
  | e :: l, a => by
    rw [List.cons_append, addEntrypoints, addEntrypoints]
    cases t.lookup e.identifier with
    | error cause => rfl
    | ok s =>
      simp only [addEntrypoints_append later l, bind_assoc]

/-- The nodes of a graph come first when further entrypoints are added, and gain children at most. -/
theorem gainsChildren_of_addEntrypoints {l later : List Entrypoint} {a b : Assembly}
    (ha : addEntrypoints pipelines t {} l = .ok a)
    (hb : addEntrypoints pipelines t {} (l ++ later) = .ok b) :
    ∃ old new, b.graph.nodes = old ++ new ∧
      List.Forall₂ (Node.GainsChildren (a.graph.IsLaterRoot b.graph later)) a.graph.nodes old := by
  have hA := underway_of_addEntrypoints ha
  have hB := underway_of_addEntrypoints hb
  have hfound := (Assembly.assemblable_of_addEntrypoints hb).found
  rw [t.visits_append, t.joins_append] at hB
  have hblock := isBlock_blockOf pipelines
  have hnodup := hB.assembled.preordered.nodup
  have hX : ∀ x ∈ t.joins later, x ∈ t.visits later ∧ x.above ≠ [] := fun x =>
    hA.joined.mem_later hB.joined
  have hnew : ∀ x ∈ t.visits later, x.group ∉ (t.visits l).map Visit.group := by
    intro x hx hmem
    rw [List.map_append, List.nodup_append] at hnodup
    exact hnodup.2.2 _ hmem _ (List.mem_map_of_mem hx) rfl
  have hlayout := layout_append hblock (t.joins later) hA.assembled.preordered hnodup fun w =>
    (mem_joined hA.joined).1
  rw [← hB.assembled.nodes, ← hA.assembled.nodes] at hlayout
  refine ⟨_, _, hlayout, List.forall₂_map_right_iff.2 (List.forall₂_same.2 fun n hn => ?_)⟩
  apply Node.gainsChildren_stitch
  · intro z hz hroot
    obtain ⟨x, hx, rfl⟩ := List.mem_map.1 hz
    refine hnew x (hX x hx).1 ?_
    rw [← serviceGroup_of_mem_rootsIn hblock hroot]
    exact (hA.assembled.mem_identifiers_iff.1 (List.mem_map_of_mem hn)).1
  · intro z hz j hj
    obtain ⟨x, hx, rfl⟩ := List.mem_map.1 hz
    have hgroup := serviceGroup_of_mem_rootsIn hblock hj
    obtain ⟨m, hm, rfl, hroot⟩ := mem_rootsIn.1 hj
    have hxB := List.mem_append_right (t.visits l) (hX x hx).1
    have hsupplied := hB.assembled.supplied x hxB
    obtain ⟨-, s, hs⟩ := hsupplied.mem_block_iff.1 (List.mem_map_of_mem hm)
    constructor
    case step =>
      refine ⟨s, (hB.assembled.steps _ s).2 ⟨?_, hs⟩, (hsupplied.isRoot_iff hm hs).1 hroot⟩
      rw [hgroup]
      exact List.mem_map_of_mem hxB
    case new =>
      rw [hA.assembled.services, hgroup]
      exact hnew x (hX x hx).1
    case below =>
      intro hmem
      obtain ⟨e, he, heq⟩ := List.mem_map.1 hmem
      obtain ⟨r, hr⟩ := Option.isSome_iff_exists.1 (hfound e (List.mem_append_right l he))
      obtain ⟨hroot, hrgroup⟩ := Topology.mem_visits_root he hr
      have hsame := hB.assembled.preordered.eq_of_group_eq hxB
        (List.mem_append_right (t.visits l) hroot) (hgroup.symm.trans (heq.symm.trans hrgroup.symm))
      exact (hX x hx).2 (congrArg Visit.above hsame)

/-- A graph is continued when further entrypoints are added. -/
theorem continuedBy_of_addEntrypoints {l later : List Entrypoint} {a b : Assembly}
    (ha : addEntrypoints pipelines t {} l = .ok a)
    (hb : addEntrypoints pipelines t {} (l ++ later) = .ok b) :
    a.graph.ContinuedBy later b.graph := by
  have hkeeps := keeps_of_addEntrypoints ha
  have hfit := Assembly.assemblable_of_addEntrypoints hb
  have hrecords := (checks_addEntrypoints pipelines t l).property a ha
  have hbrecords := (checks_addEntrypoints pipelines t (l ++ later)).property b hb
  have hgroups : ∀ group, group ∈ a.graph.services.keys ↔
      group ∈ (t.selected l).map Service.serviceGroup := by
    intro group
    rw [(underway_of_addEntrypoints ha).assembled.services, ← t.visits_services, List.map_map]
    rfl
  have hdistinct := hfit.distinct
  rw [t.selected_append] at hdistinct
  have hrestrict := (keeps_of_addEntrypoints hb).restrict fun group =>
    decide (group ∈ a.graph.services.keys)
  simp only [hgroups] at hrestrict
  rw [t.selected_append, filter_mem_keys_eq hdistinct] at hrestrict
  rw [t.selected_append, Pipelines.ofServices, List.filterMap_append] at hbrecords
  constructor
  case nodes => exact gainsChildren_of_addEntrypoints ha hb
  case services =>
    simp only [hgroups]
    exact hrestrict.services.trans hkeeps.services.symm
  case steps =>
    simp only [hgroups]
    exact hrestrict.steps.trans hkeeps.steps.symm
  case validationSteps =>
    simp only [hgroups]
    exact hrestrict.validationSteps.trans hkeeps.validationSteps.symm
  case target =>
    intro name target htarget
    rw [hrecords.target] at htarget
    rw [hbrecords.target, recordedTarget?, List.findSome?_append]
    exact Option.or_eq_some_iff.2 (.inl htarget)
  case subscription =>
    intro s hs
    rw [hrecords.subscription] at hs
    rw [hbrecords.subscription, List.flatMap_append, List.head?_append]
    exact Option.or_eq_some_iff.2 (.inl hs)

end Assembly

/-- A graph of more entrypoints continues the graph of the first of them. If there is no such graph for
the first of them, there is none for more, and unless it is for a cycle, the reason is the same. -/
theorem Graph.forEntrypoints_append (t : Topology) (l later : List Entrypoint) (pipelines : Pipelines) :
    (∀ g h, forEntrypoints t l pipelines = .ok g → forEntrypoints t (l ++ later) pipelines = .ok h →
      g.ContinuedBy later h) ∧
    (∀ e, forEntrypoints t l pipelines = .error e → (∀ path g, e ≠ .cycle path g) →
      forEntrypoints t (l ++ later) pipelines = .error e) ∧
    (∀ path g, forEntrypoints t l pipelines = .error (.cycle path g) →
      ∀ h, forEntrypoints t (l ++ later) pipelines ≠ .ok h) := by
  refine ⟨?_, ?_, ?_⟩
  · intro g h hg hh
    obtain ⟨a, ha, hacyclic⟩ := bind_eq_ok.1 hg
    obtain ⟨b, hb, hbacyclic⟩ := bind_eq_ok.1 hh
    obtain ⟨rfl, -⟩ := checked_eq_ok hacyclic
    obtain ⟨rfl, -⟩ := checked_eq_ok hbacyclic
    exact Assembly.continuedBy_of_addEntrypoints ha hb
  · intro e he hcycle
    cases ha : Assembly.addEntrypoints pipelines t {} l with
    | error e' =>
      rw [forEntrypoints, ha] at he
      obtain rfl := Except.error.inj he
      rw [forEntrypoints, Assembly.addEntrypoints_append, ha]
      rfl
    | ok a =>
      rw [forEntrypoints_eq_checked ha] at he
      rcases (Assembly.underway_of_addEntrypoints ha).checked_cases with ⟨hok, -⟩ | ⟨path, herror, -⟩
      · rw [hok] at he
        cases he
      · rw [herror] at he
        exact absurd (Except.error.inj he).symm (hcycle path a.graph)
  · intro path g hg h hh
    obtain ⟨s, hs, p, hp, hcyclic⟩ := exists_isCyclic_of_forEntrypoints hg
    have hmem : s ∈ t.selected (l ++ later) := by
      rw [t.selected_append]
      exact List.mem_append_left _ hs
    exact not_isCyclic_of_forEntrypoints hh hmem hp hcyclic

namespace SmallRollout

/-- The topology with one more sub-tree, whose root has no steps. -/
def widerTopology : Topology where
  services := [network, { serviceGroup := "archive", children := [{ serviceGroup := "backup" }] }]

def widerPipelines : Pipelines :=
  Sorted.put "archive" (pipeline "archive" []) (Sorted.put "backup" (pipeline "backup" [step "copy" []])
    pipelines)

def archive : Entrypoint := { identifier := "archive" }

def copy : Identifier := ⟨"backup", "rg", "copy"⟩

/-- The last steps of the first sub-tree come before the first step of the second one. -/
def widerNodes : List Node :=
  [⟨⟨"network", "rg", "create"⟩, [⟨"network", "rg", "peer"⟩], []⟩,
    ⟨⟨"network", "rg", "peer"⟩, [⟨"workload", "rg", "deploy"⟩, ⟨"dns", "rg", "zone"⟩],
      [⟨"network", "rg", "create"⟩]⟩,
    ⟨⟨"workload", "rg", "deploy"⟩, [copy], [⟨"network", "rg", "peer"⟩]⟩,
    ⟨⟨"dns", "rg", "zone"⟩, [copy], [⟨"network", "rg", "peer"⟩]⟩,
    ⟨copy, [], [⟨"workload", "rg", "deploy"⟩, ⟨"dns", "rg", "zone"⟩]⟩]

theorem findObstacle?_widerNodes : findObstacle? widerNodes = none := by
  simp [findObstacle?, ChildIndex.exploreAll, ChildIndex.ofNodes, widerNodes, copy,
    ChildIndex.explore_cons, ChildIndex.explore, Std.HashMap.getElem_insert]

/-- Graphs are known from their nodes when these have no cycle. -/
theorem exists_graph_of_nodes {t : Topology} {l : List Entrypoint} {pipelines : Pipelines}
    {nodes : List Node} (hnodes : findObstacle? nodes = none)
    (h : (Assembly.addEntrypoints pipelines t {} l).map (fun a => a.graph.nodes) = .ok nodes) :
    ∃ g, Graph.forEntrypoints t l pipelines = .ok g ∧ g.nodes = nodes := by
  obtain ⟨a, ha, hgraph⟩ := map_eq_ok.1 h
  refine ⟨a.graph, Graph.forEntrypoints_eq_ok ha ?_, hgraph⟩
  rw [hgraph, hnodes]

end SmallRollout

theorem Graph.continued_small_rollout : ∃ g h,
    forEntrypoints SmallRollout.widerTopology SmallRollout.entrypoints SmallRollout.widerPipelines =
      .ok g ∧
    forEntrypoints SmallRollout.widerTopology (SmallRollout.entrypoints ++ [SmallRollout.archive])
      SmallRollout.widerPipelines = .ok h ∧
    g.nodes = SmallRollout.nodes ∧ h.nodes = SmallRollout.widerNodes ∧
    g.ContinuedBy [SmallRollout.archive] h := by
  obtain ⟨g, hg, hgnodes⟩ := SmallRollout.exists_graph_of_nodes SmallRollout.findObstacle?_nodes
    (show (Assembly.addEntrypoints SmallRollout.widerPipelines SmallRollout.widerTopology {}
      SmallRollout.entrypoints).map (fun a => a.graph.nodes) = .ok SmallRollout.nodes by cbv)
  obtain ⟨h, hh, hhnodes⟩ := SmallRollout.exists_graph_of_nodes SmallRollout.findObstacle?_widerNodes
    (show (Assembly.addEntrypoints SmallRollout.widerPipelines SmallRollout.widerTopology {}
      (SmallRollout.entrypoints ++ [SmallRollout.archive])).map (fun a => a.graph.nodes) =
        .ok SmallRollout.widerNodes by cbv)
  exact ⟨g, h, hg, hh, hgnodes, hhnodes, (forEntrypoints_append ..).1 g h hg hh⟩

end RolloutPlan
