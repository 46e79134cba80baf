import RolloutPlan.Proofs.Reordering
import RolloutPlan.Proofs.Representation

/-!
# The graph of reordered pipelines

The assembly asks the pipelines for nothing but contributions. So it goes the same way with pipelines that
contribute the same, and with reordered ones in particular.

* `Contributes`: what some pipelines contribute, other ones contribute as well.
* `Assembly.record_of_contributes`, `Assembly.addService_of_contributes`,
  `Assembly.addEntrypoints_of_contributes`: one service, a sub-tree, and all sub-trees that are selected.
* `Graph.forEntrypoints_eq_of_contributes`: a rollout that has a graph, with a cycle or without, ends in the
  same way with the other pipelines.
* `Graph.forEntrypoints_reordered`: reordered pipelines have the same graph and the same cycle.
-/

namespace RolloutPlan

set_option autoImplicit false

/-- What the pipelines of services contribute is contributed by other pipelines as well. -/
def Contributes (pipelines pipelines' : Pipelines) : Prop :=
  ∀ group c, contributionOf pipelines group = .ok c → contributionOf pipelines' group = .ok c

namespace Assembly
variable {pipelines pipelines' : Pipelines}

/-! ## The assembly -/

theorem record_of_contributes (h : Contributes pipelines pipelines') {a a' : Assembly} {s : Service}
    (ha : a.record pipelines s = .ok a') :
    a.record pipelines' s = .ok a' := by
  unfold record at ha ⊢
  split_ifs at ha ⊢
  · exact absurd ha throw_bind_ne_ok
  · simp only [bind_eq_ok] at ha
    obtain ⟨p, hp, c, hc, ha⟩ := ha
    have hcontribution : contributionOf pipelines s.serviceGroup = .ok c :=
      bind_eq_ok.2 ⟨p, hp, hc⟩
    obtain ⟨q, hq, hc'⟩ := bind_eq_ok.1 (h _ _ hcontribution)
    simp only [bind_eq_ok]
    exact ⟨q, hq, c, hc', ha⟩

mutual
theorem addService_of_contributes (h : Contributes pipelines pipelines') {a a' : Assembly} :
    ∀ {s : Service}, addService pipelines a s = .ok a' → addService pipelines' a s = .ok a'
  | ⟨group, purpose, path, children, metadata⟩, ha => by
    rw [addService, bind_eq_ok] at ha ⊢
    obtain ⟨a₁, h₁, ha⟩ := ha
    exact ⟨a₁, record_of_contributes h h₁, addChildren_of_contributes h ha⟩
theorem addChildren_of_contributes (h : Contributes pipelines pipelines') {a a' : Assembly}
    {leaves : List Identifier} : ∀ {l : List Service}, addChildren pipelines leaves a l = .ok a' →
      addChildren pipelines' leaves a l = .ok a'
  | [], ha => ha
  | s :: l, ha => by
    simp only [addChildren, bind_eq_ok] at ha ⊢
    obtain ⟨a₁, h₁, a₂, h₂, ha⟩ := ha
    exact ⟨a₁, addService_of_contributes h h₁, a₂, h₂, addChildren_of_contributes h ha⟩
end

theorem addEntrypoints_of_contributes (h : Contributes pipelines pipelines') {t : Topology} :
    ∀ {l : List Entrypoint} {a a' : Assembly},
      addEntrypoints pipelines t a l = .ok a' → addEntrypoints pipelines' t a l = .ok a'
  | [], _, _, ha => ha
  | e :: l, a, a', ha => by
    rw [addEntrypoints] at ha ⊢
    cases hs : t.lookup e.identifier with
    | error cause =>
      rw [hs] at ha
      cases ha
    | ok s =>
      simp only [hs, bind_eq_ok] at ha ⊢
      obtain ⟨a₁, h₁, ha⟩ := ha
      exact ⟨a₁, addService_of_contributes h h₁, addEntrypoints_of_contributes h ha⟩

end Assembly

/-! ## Graphs -/

namespace Graph
variable {t : Topology} {entrypoints : List Entrypoint} {pipelines pipelines' : Pipelines}

/-- A rollout that has a graph, with a cycle or without, ends in the same way with pipelines that
contribute the same. -/
theorem forEntrypoints_eq_of_contributes (h : Contributes pipelines pipelines') {g : Graph}
    (hg : (GraphSource.entrypoints t entrypoints pipelines).Assembles g) :
    forEntrypoints t entrypoints pipelines' = forEntrypoints t entrypoints pipelines := by
  obtain ⟨a, ha, -⟩ := hg.exists_assembly
  rw [forEntrypoints_eq_checked ha,
    forEntrypoints_eq_checked (Assembly.addEntrypoints_of_contributes h ha)]

theorem forEntrypoints_of_reordered (h : pipelines.Reordered pipelines') {x : Except GraphError Graph}
    (hx : (∃ g, x = .ok g) ∨ ∃ path g, x = .error (.cycle path g))
    (hresult : forEntrypoints t entrypoints pipelines = x) :
    forEntrypoints t entrypoints pipelines' = x := by
  have hcontributes : Contributes pipelines pipelines' := fun _ _ => h.contributes
  obtain ⟨g, hg⟩ : ∃ g, (GraphSource.entrypoints t entrypoints pipelines).Assembles g := by
    rcases hx with ⟨g, rfl⟩ | ⟨path, g, rfl⟩
    · exact ⟨g, .inl hresult⟩
    · exact ⟨g, .inr ⟨path, hresult⟩⟩
  exact (forEntrypoints_eq_of_contributes hcontributes hg).trans hresult

/-- The order in which resource groups and steps are written does not count: with reordered pipelines a
rollout has the same graph, or it has the same cycle in the same graph. -/
theorem forEntrypoints_reordered (t : Topology) (entrypoints : List Entrypoint)
    (h : pipelines.Reordered pipelines') :
    (∀ g, forEntrypoints t entrypoints pipelines = .ok g ↔
      forEntrypoints t entrypoints pipelines' = .ok g) ∧
    ∀ path g, forEntrypoints t entrypoints pipelines = .error (.cycle path g) ↔
      forEntrypoints t entrypoints pipelines' = .error (.cycle path g) := by
  constructor
  · intro g
    constructor
    · exact forEntrypoints_of_reordered h (.inl ⟨g, rfl⟩)
    · exact forEntrypoints_of_reordered h.symm (.inl ⟨g, rfl⟩)
  · intro path g
    constructor
    · exact forEntrypoints_of_reordered h (.inr ⟨path, g, rfl⟩)
    · exact forEntrypoints_of_reordered h.symm (.inr ⟨path, g, rfl⟩)

end Graph

namespace SmallRollout

/-- The first service has its steps in the other order. -/
def reorderedPipelines : Pipelines where
  entries :=
    [("cluster", pipeline "cluster" []),
      ("dns", pipeline "dns" [step "zone" []]),
      ("network", pipeline "network" [step "peer" [⟨"rg", "create"⟩], step "create" []]),
      ("workload", pipeline "workload" [step "deploy" []])]
  increasing := by decide

theorem pipeline_reordered (serviceGroup : String) {l m : List Step} (h : l.Perm m) :
    (pipeline serviceGroup l).Reordered (pipeline serviceGroup m) :=
  ⟨rfl, _, .refl _, .cons ⟨rfl, rfl, h, fun _ => rfl⟩ .nil⟩

theorem reordered : pipelines.Reordered reorderedPipelines :=
  .of_forall₂ (.cons ⟨rfl, pipeline_reordered "cluster" (.refl _)⟩
    (.cons ⟨rfl, pipeline_reordered "dns" (.refl _)⟩
      (.cons ⟨rfl, pipeline_reordered "network" (.swap _ _ _)⟩
        (.cons ⟨rfl, pipeline_reordered "workload" (.refl _)⟩ .nil))))

end SmallRollout

theorem Graph.forEntrypoints_reordered_small_rollout :
    SmallRollout.pipelines.Reordered SmallRollout.reorderedPipelines ∧ ∃ g,
      forEntrypoints SmallRollout.topology SmallRollout.entrypoints SmallRollout.reorderedPipelines =
        .ok g ∧ g.nodes = SmallRollout.nodes := by
  obtain ⟨g, hg, hnodes, -⟩ := SmallRollout.exists_graph
  exact ⟨SmallRollout.reordered, g,
    ((forEntrypoints_reordered _ _ SmallRollout.reordered).1 g).1 hg, hnodes⟩

end RolloutPlan
