import RolloutPlan.Proofs.Moments

/-!
# The index at every moment

At every moment of an assembly the index has the place of every node and nothing else. The leaves and
roots that are remembered have nodes, and so have all neighbours, when the nodes of the last service
that are still to be pushed are counted. That is why no node is ever missed, neither when leaves and
roots are linked nor when cycles are searched for.

* `Assembly.Closed`: what is kept up with the nodes; `Assembly.Closed.push`, `Assembly.Closed.book` and
  `Assembly.Closed.modify` say that each kind of change keeps it.
* `Moment.Sound`: the same with what is remembered. `Moment.Sound.perform` says that one task keeps it,
  and `Moment.Sound.of_reaches` that a run does.
* `FindsNodes`: a computation does not miss a node.
* `GraphSource.indexed_throughout`: the index of every moment, and that no node is missed.
-/

namespace RolloutPlan

set_option autoImplicit false

/-! ## Changes of an assembly -/

namespace Assembly
variable {pipelines : Pipelines} {a b : Assembly} {pending : List Node}

theorem leaves_subset (a : Assembly) : a.graph.leaves ⊆ a.identifiers :=
  List.map_subset _ (List.filter_subset_self _)

theorem rootsOf_subset (a : Assembly) (serviceGroup : String) :
    a.rootsOf serviceGroup ⊆ a.identifiers :=
  List.map_subset _ (List.filter_subset_self _)

/-- An assembly in which nothing is missing once the pending nodes are pushed. -/
structure Closed (a : Assembly) (pending : List Node) : Prop where
  indexed : a.Indexed
  distinct : ((a.graph.nodes ++ pending).map Node.identifier).Nodup
  recorded : ∀ i ∈ (a.graph.nodes ++ pending).map Node.identifier,
    i.serviceGroup ∈ a.graph.services.keys
  neighbours_mem : ∀ n ∈ a.graph.nodes ++ pending, ∀ j ∈ n.neighbours,
    j ∈ (a.graph.nodes ++ pending).map Node.identifier

namespace Closed

theorem empty : Closed {} [] := by
  refine ⟨indexed_empty, ?_, ?_, ?_⟩ <;> simp

theorem push {n : Node} (h : a.Closed (n :: pending)) : (a.push n).Closed pending := by
  have hnodes : (a.push n).graph.nodes ++ pending = a.graph.nodes ++ n :: pending := by
    simp [Assembly.push]
  have hn : n.identifier ∉ a.identifiers := by
    have hdistinct := h.distinct
    rw [List.map_append] at hdistinct
    intro hmem
    exact List.disjoint_of_nodup_append hdistinct hmem List.mem_cons_self
  constructor
  case indexed => exact indexed_push h.indexed hn
  case distinct =>
    rw [hnodes]
    exact h.distinct
  case recorded =>
    rw [hnodes]
    exact h.recorded
  case neighbours_mem =>
    rw [hnodes]
    exact h.neighbours_mem

/-- The nodes of a service that is new have neighbours among themselves only. -/
theorem book {s : Service} (h : a.Closed []) (hb : a.book pipelines s = .ok (b, pending)) :
    b.Closed pending ∧ b.identifiers = a.identifiers := by
  obtain ⟨hnew, c, hc, rfl, hindex, hnodes, hservices, -⟩ := book_spec hb
  rw [← blockOf_eq hc]
  obtain ⟨hindexed, hdistinct, hrecorded, hneighbours⟩ := h
  have hids : b.identifiers = a.identifiers := congrArg (List.map Node.identifier) hnodes
  have hblock := isBlock_blockOf pipelines s.serviceGroup
  have hgroup : ∀ i ∈ (blockOf pipelines s.serviceGroup).map Node.identifier,
      i.serviceGroup = s.serviceGroup := by
    intro i hi
    obtain ⟨n, hn, rfl⟩ := List.mem_map.1 hi
    exact hblock.serviceGroup_eq n hn
  rw [List.append_nil] at hdistinct hrecorded hneighbours
  refine ⟨?_, hids⟩
  constructor
  case indexed => exact hindexed.of_eq hindex hids
  case distinct =>
    rw [hnodes, List.map_append]
    refine List.nodup_append.2 ⟨hdistinct, hblock.nodup, ?_⟩
    rintro i hi _ hi' rfl
    exact hnew (hgroup i hi' ▸ hrecorded i hi)
  case recorded =>
    intro i hi
    rw [hservices, Sorted.mem_keys_put]
    rw [hnodes, List.map_append, List.mem_append] at hi
    rcases hi with hi | hi
    · exact .inr (hrecorded i hi)
    · exact .inl (hgroup i hi)
  case neighbours_mem =>
    intro n hn j hj
    rw [hnodes, List.map_append, List.mem_append]
    rw [hnodes, List.mem_append] at hn
    rcases hn with hn | hn
    · exact .inl (hneighbours n hn j hj)
    · rcases List.mem_append.1 hj with hj | hj
      · exact .inr (hblock.children_mem n hn j hj)
      · exact .inr (hblock.parents_mem n hn j hj)

/-- A step that has a node is found, and gains neighbours that have nodes. -/
theorem modify {side : Side} {l : List Identifier} {i : Identifier} (h : a.Closed [])
    (hl : ∀ j ∈ l, j ∈ a.identifiers) (hi : i ∈ a.identifiers) :
    ∃ b, a.modify i (Node.extend side l) = .ok b ∧ b.Closed [] ∧ b.identifiers = a.identifiers := by
  obtain ⟨hindexed, hdistinct, hrecorded, hneighbours⟩ := h
  have hids := map_identifier_changed (Node.identifier_extend side l) [i] a.graph.nodes
  rw [List.append_nil] at hdistinct hrecorded hneighbours
  refine ⟨_, modify_eq hindexed hi, ?_, hids⟩
  constructor
  case indexed => exact hindexed.withNodes hids
  case distinct =>
    rw [List.append_nil, nodes_withNodes, hids]
    exact hdistinct
  case recorded =>
    rw [List.append_nil, nodes_withNodes, hids]
    exact hrecorded
  case neighbours_mem =>
    rw [List.append_nil, nodes_withNodes, hids]
    intro n hn j hj
    obtain ⟨m, hm, rfl⟩ := List.mem_map.1 hn
    split_ifs at hj
    · rcases Node.mem_neighbours_extend.1 hj with hj | hj
      · exact hneighbours m hm j hj
      · exact hl j hj
    · exact hneighbours m hm j hj

end Closed

end Assembly

/-! ## Sound moments -/

/-- A moment at which nothing is missing. -/
structure Moment.Sound (m : Moment) : Prop where
  closed : m.assembly.Closed m.pending
  captured : ∀ i ∈ m.captured, i ∈ m.assembly.identifiers

namespace Moment.Sound
variable {pipelines : Pipelines} {m m' : Moment} {a : Assembly} {task : Task} {tasks tasks' : List Task}

/-- With the same assembly other steps may be remembered that have nodes. -/
theorem retask (h : (⟨a, [], tasks⟩ : Moment).Sound) (htasks : ∀ i ∈ tasks'.flatMap Task.captured,
    i ∈ tasks.flatMap Task.captured ∨ i ∈ a.identifiers) : (⟨a, [], tasks'⟩ : Moment).Sound := by
  refine ⟨h.closed, fun i hi => ?_⟩
  rcases htasks i hi with hi | hi
  · exact h.captured i hi
  · exact hi

/-- A task that is done is forgotten. -/
theorem done (h : (⟨a, [], task :: tasks⟩ : Moment).Sound) : (⟨a, [], tasks⟩ : Moment).Sound :=
  h.retask fun _ hi => .inl (List.mem_append_right _ hi)

/-- The next step that gains neighbours is found. -/
theorem closed_modify {side : Side} {l steps : List Identifier} {i : Identifier}
    (h : (⟨a, [], .extend side l (i :: steps) :: tasks⟩ : Moment).Sound) :
    ∃ b, a.modify i (Node.extend side l) = .ok b ∧ b.Closed [] ∧ b.identifiers = a.identifiers := by
  refine h.closed.modify (fun j hj => h.captured j ?_) (h.captured i ?_)
  · exact List.mem_append_left _ (List.mem_append_left _ hj)
  · exact List.mem_append_left _ (List.mem_append_right _ List.mem_cons_self)

theorem perform (h : (⟨a, [], task :: tasks⟩ : Moment).Sound)
    (hm : task.perform pipelines a tasks = .ok m) : m.Sound := by
  cases task with
  | select t l =>
    cases l with
    | nil =>
      obtain rfl := Except.ok.inj hm
      exact h.done
    | cons e l =>
      rw [Task.perform] at hm
      split at hm
      · cases hm
      · obtain rfl := Except.ok.inj hm
        exact h.retask fun i hi => .inl hi
  | add s =>
    rw [Task.perform, bind_eq_ok] at hm
    obtain ⟨⟨b, pending⟩, hb, hm⟩ := hm
    obtain rfl := Except.ok.inj hm
    obtain ⟨hclosed, hids⟩ := h.closed.book hb
    refine ⟨hclosed, fun i hi => ?_⟩
    show i ∈ b.identifiers
    rw [hids]
    exact h.captured i hi
  | descend l =>
    obtain rfl := Except.ok.inj hm
    refine h.retask fun i hi => ?_
    rcases List.mem_append.1 hi with hi | hi
    · exact .inr (a.leaves_subset hi)
    · exact .inl hi
  | visit leaves l =>
    cases l with
    | nil =>
      obtain rfl := Except.ok.inj hm
      exact h.done
    | cons s l =>
      obtain rfl := Except.ok.inj hm
      -- The leaves are kept twice: to link this service, and for the services after it.
      refine h.retask fun i hi => .inl ?_
      simp only [List.flatMap_cons, Task.captured, List.mem_append, List.nil_append] at hi ⊢
      tauto
  | link leaves serviceGroup =>
    rw [Task.perform] at hm
    split_ifs at hm
    · obtain rfl := Except.ok.inj hm
      exact h.done
    · obtain rfl := Except.ok.inj hm
      have hroot := a.rootsOf_subset serviceGroup
      refine h.retask fun i hi => ?_
      simp only [List.flatMap_cons, Task.captured, List.mem_append] at hi ⊢
      tauto
  | extend side neighbours steps =>
    cases steps with
    | nil =>
      obtain rfl := Except.ok.inj hm
      exact h.done
    | cons i steps =>
      obtain ⟨b, hb, hclosed, hids⟩ := h.closed_modify
      rw [Task.perform, hb] at hm
      obtain rfl := Except.ok.inj hm
      refine ⟨hclosed, fun j hj => ?_⟩
      show j ∈ b.identifiers
      rw [hids]
      refine h.captured j ?_
      simp only [Moment.captured, List.flatMap_cons, Task.captured, List.mem_append,
        List.mem_cons] at hj ⊢
      tauto

theorem advance (h : m.Sound) (hm : m.advance pipelines = .ok m') : m'.Sound := by
  obtain ⟨a, pending, tasks⟩ := m
  cases pending with
  | cons n pending =>
    obtain rfl := Except.ok.inj hm
    refine ⟨h.closed.push, fun i hi => ?_⟩
    show i ∈ (a.push n).identifiers
    rw [Assembly.identifiers_push]
    exact List.mem_append_left _ (h.captured i hi)
  | nil =>
    cases tasks with
    | nil =>
      obtain rfl := Except.ok.inj hm
      exact h
    | cons task tasks => exact h.perform hm

/-- A run keeps moments sound, by induction on its changes. -/
theorem of_reaches (h : m.Sound) (hm : m.Reaches pipelines m') : m'.Sound := by
  induction hm with
  | refl => exact h
  | tail _ hstep ih => exact ih.advance hstep

theorem mem_index (h : m.Sound) {i : Identifier} (hi : i ∈ m.captured) : i ∈ m.assembly.index := by
  obtain ⟨k, hk⟩ := List.mem_iff_getElem?.1 (h.captured i hi)
  rw [Std.HashMap.mem_iff_isSome_getElem?, (h.closed.indexed i k).2 hk]
  rfl

end Moment.Sound

theorem GraphSource.sound_start (r : GraphSource) : r.start.Sound := by
  cases r <;> exact ⟨.empty, by simp [start, Moment.captured, Task.captured]⟩

/-! ## Missing nodes -/

/-- A computation does not miss a node. -/
def FindsNodes {α : Type} (x : Except GraphError α) : Prop := ∀ i, x ≠ .error (.missingNode i)

namespace FindsNodes
variable {α β : Type} {x : Except GraphError α}

theorem ok (a : α) : FindsNodes (.ok a) := by
  intro i h
  cases h

theorem error {e : GraphError} (he : ∀ i, e ≠ .missingNode i) :
    FindsNodes (.error e : Except GraphError α) := by
  intro i h
  exact he i (Except.error.inj h)

theorem bind {f : α → Except GraphError β} (hx : FindsNodes x) (hf : ∀ a, FindsNodes (f a)) :
    FindsNodes (x >>= f) := by
  cases x with
  | ok a => exact hf a
  | error e =>
    refine error fun i he => ?_
    exact hx i (congrArg Except.error he)

theorem pipelineOf (pipelines : Pipelines) (serviceGroup : String) :
    FindsNodes (Assembly.pipelineOf pipelines serviceGroup) := by
  unfold Assembly.pipelineOf
  split
  · exact error (by simp)
  · split_ifs
    · exact ok _
    · exact error (by simp)

theorem contribution (p : Pipeline) : FindsNodes p.contribution := by
  intro i h
  have hmem := p.checks_contribution.mem_of_error h
  rcases Pipeline.mem_objections_cases hmem with ⟨_, h⟩ | h | ⟨_, h⟩ | ⟨_, _, h⟩ <;> cases h

theorem addTarget (serviceGroup : String) (g : Graph) (name : String) (target : ResourceGroupTarget) :
    FindsNodes (Assembly.addTarget serviceGroup g name target) := by
  unfold Assembly.addTarget
  simp only
  split
  · exact ok _
  · split_ifs
    · exact ok _
    · exact error (by simp)

theorem addTargets (serviceGroup : String) : ∀ (l : List (String × ResourceGroupTarget)) (g : Graph),
    FindsNodes (Assembly.addTargets serviceGroup g l)
  | [], g => ok g
  | (name, target) :: l, g => by
    rw [Assembly.addTargets]
    exact (addTarget serviceGroup g name target).bind fun g' => addTargets serviceGroup l g'

theorem addSubscription (g : Graph) (s : Option Subscription) :
    FindsNodes (Assembly.addSubscription g s) := by
  unfold Assembly.addSubscription
  split
  · exact ok g
  · exact error (by simp)
  · exact ok _

theorem book (pipelines : Pipelines) (a : Assembly) (s : Service) :
    FindsNodes (a.book pipelines s) := by
  unfold Assembly.book
  split_ifs
  · exact error (by simp)
  · refine bind (bind (pipelineOf _ _) contribution) fun c => ?_
    exact bind (addTargets _ _ _) fun g => bind (addSubscription _ _) fun g' => ok _

end FindsNodes

/-- A sound moment has a next one, unless the reason is another than a missing node. -/
theorem Moment.Sound.findsNodes {pipelines : Pipelines} {m : Moment} (h : m.Sound) :
    FindsNodes (m.advance pipelines) := by
  obtain ⟨a, pending, tasks⟩ := m
  cases pending with
  | cons n pending => exact .ok _
  | nil =>
    cases tasks with
    | nil => exact .ok _
    | cons task tasks =>
      show FindsNodes (task.perform pipelines a tasks)
      cases task with
      | select t l =>
        cases l with
        | nil => exact .ok _
        | cons e l =>
          rw [Task.perform]
          split
          · exact .error (by simp)
          · exact .ok _
      | add s => exact (FindsNodes.book pipelines a s).bind fun _ => .ok _
      | descend l => exact .ok _
      | visit leaves l => cases l <;> exact .ok _
      | link leaves serviceGroup =>
        rw [Task.perform]
        split_ifs <;> exact .ok _
      | extend side neighbours steps =>
        cases steps with
        | nil => exact .ok _
        | cons i steps =>
          obtain ⟨b, hb, -, -⟩ := h.closed_modify
          rw [Task.perform, hb]
          exact .ok _

/-- All children have nodes, so the search for cycles misses none. -/
theorem Assembly.Closed.findsNodes {a : Assembly} (h : a.Closed []) : FindsNodes a.graph.checked := by
  obtain ⟨-, hdistinct, -, hneighbours⟩ := h
  rw [List.append_nil] at hdistinct hneighbours
  unfold Graph.checked
  split
  · exact .ok _
  · exact .error (by simp)
  · rename_i i hmissing
    obtain ⟨⟨n, hn, hi⟩, hnone⟩ := missing_of_findObstacle? hdistinct hmissing
    exact absurd (hneighbours n hn i (List.mem_append_left _ hi)) hnone

namespace GraphSource

theorem findsNodes (r : GraphSource) : FindsNodes r.result := by
  have hends := r.ends_assembly
  rw [r.result_eq]
  cases h : r.assembly with
  | ok a =>
    rw [h] at hends
    exact (r.sound_start.of_reaches hends).closed.findsNodes
  | error e =>
    rw [h] at hends
    obtain ⟨m, hm, he⟩ := hends
    intro i hi
    obtain rfl := Except.error.inj hi
    exact (r.sound_start.of_reaches hm).findsNodes i he

/-- At every moment of an assembly the index has the place of every node and nothing else, and the place
of everything that is remembered, and no change fails for a missing node. The assembly ends as these
changes do, so no graph fails for a missing node, neither when it is put together nor when cycles are
searched for. -/
theorem indexed_throughout (r : GraphSource) :
    (∀ m, r.start.Reaches r.pipelines m → m.assembly.Indexed ∧
      (∀ i ∈ m.captured, i ∈ m.assembly.index) ∧
      ∀ i, m.advance r.pipelines ≠ .error (.missingNode i)) ∧
    r.start.Ends r.pipelines [] r.assembly ∧
    ∀ i, r.result ≠ .error (.missingNode i) := by
  refine ⟨fun m hm => ?_, r.ends_assembly, r.findsNodes⟩
  have hsound := r.sound_start.of_reaches hm
  exact ⟨hsound.closed.indexed, fun i hi => hsound.mem_index hi, hsound.findsNodes⟩

end GraphSource

namespace SmallRollout

def source : GraphSource := .entrypoints topology entrypoints pipelines

theorem exists_record : ∃ a, ({} : Assembly).record pipelines network = .ok a ∧
    a.graph.leaves = [⟨"network", "rg", "peer"⟩] := by
  have h : (({} : Assembly).record pipelines network).map (fun a => a.graph.leaves) =
      .ok [⟨"network", "rg", "peer"⟩] := by
    cbv
  exact map_eq_ok.1 h

/-- When the services under the first one are about to be visited, its last step is remembered. -/
theorem exists_moment : ∃ m, source.start.Reaches pipelines m ∧
    m.captured = [⟨"network", "rg", "peer"⟩] := by
  obtain ⟨a, ha, hleaves⟩ := exists_record
  have hadd : source.start.advance pipelines = .ok ⟨{}, [], [.add network, .select topology []]⟩ := by
    cbv
  have hrecord : (⟨{}, [], [.add network, .select topology []]⟩ : Moment).Ends pipelines
      [.descend network.children, .select topology []] (({} : Assembly).record pipelines network) :=
    Moment.ends_record {} network [.select topology []]
  rw [ha] at hrecord
  refine ⟨⟨a, [], [.visit a.graph.leaves network.children, .select topology []]⟩,
    .head hadd (hrecord.tail rfl), ?_⟩
  rw [← hleaves]
  exact List.append_nil _

end SmallRollout

theorem GraphSource.indexed_in_small_rollout : ∃ m,
    SmallRollout.source.start.Reaches SmallRollout.source.pipelines m ∧
      m.captured = [⟨"network", "rg", "peer"⟩] ∧
      (⟨"network", "rg", "peer"⟩ : Identifier) ∈ m.assembly.index := by
  obtain ⟨m, hm, hcaptured⟩ := SmallRollout.exists_moment
  obtain ⟨hmoments, -, -⟩ := indexed_throughout SmallRollout.source
  refine ⟨m, hm, hcaptured, (hmoments m hm).2.1 _ ?_⟩
  rw [hcaptured]
  exact List.mem_singleton_self _

end RolloutPlan
