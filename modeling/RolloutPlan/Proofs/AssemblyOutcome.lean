import RolloutPlan.Proofs.Acyclicity
import RolloutPlan.Proofs.Bookkeeping

/-!
# How building a graph ends

The assembly fails with the first objection to the services, and the search that comes after it fails
with a cycle or not at all.

* `GraphSource.checks_assembly`, `GraphSource.keeps_of_assembly`,
  `GraphSource.serviceObjections_eq_nil_of_assembly`: what holds of the services of an assembly.
* `GraphSource.first_objection`, `GraphSource.head?_objections_cases`: what else than a cycle a graph fails
  with, and which service it is about.
* `Graph.forEntrypoints_assembles_iff`: when a graph is put together, and which error comes otherwise.
-/

namespace RolloutPlan

set_option autoImplicit false

namespace GraphSource

/-! ## Runs of the assembly -/

/-- Everything that speaks against what a graph is built from. -/
def objections : GraphSource → List GraphError
  | pipeline s p => withEarlier (serviceObjections (.single s.serviceGroup p)) [] [s.withoutChildren]
  | entrypoint t e pipelines => t.objections pipelines [e]
  | entrypoints t l pipelines => t.objections pipelines l

theorem checks_assembly : ∀ r : GraphSource, Checks r.assembly r.objections
    fun a => a.graph.Records (r.pipelines.ofServices r.services)
  | pipeline s p => Assembly.checks_addService (Assembly.underway_empty (.single s.serviceGroup p))
      ⟨fun _ => rfl, fun _ => rfl, rfl⟩ s.withoutChildren
  | entrypoint t e pipelines => Assembly.checks_addEntrypoints pipelines t [e]
  | entrypoints t l pipelines => Assembly.checks_addEntrypoints pipelines t l

theorem keeps_of_assembly : ∀ {r : GraphSource} {a : Assembly}, r.assembly = .ok a →
    a.graph.Keeps r.pipelines r.services
  | pipeline s _, _, h => Assembly.keeps_addService (l := []) (s := s.withoutChildren) (.empty _) h
  | entrypoint _ _ _, _, h => Assembly.keeps_of_addEntrypoints h
  | entrypoints _ _ _, _, h => Assembly.keeps_of_addEntrypoints h

/-- The services of an assembly fit together. -/
theorem serviceObjections_eq_nil_of_assembly : ∀ {r : GraphSource} {a : Assembly},
    r.assembly = .ok a → withEarlier (serviceObjections r.pipelines) [] r.services = []
  | pipeline s p, a, h => (checks_assembly (pipeline s p)).exists_ok_iff.1 ⟨a, h⟩
  | entrypoint _ _ _, _, h => (Assembly.assemblable_of_addEntrypoints h).serviceObjections_eq_nil
  | entrypoints _ _ _, _, h => (Assembly.assemblable_of_addEntrypoints h).serviceObjections_eq_nil

/-! ## Failures -/

/-- The search for cycles fails with nothing else but a cycle, and any other error is the first
objection. -/
theorem first_objection {r : GraphSource} {e : GraphError} (h : r.result = .error e) :
    (∃ path g, e = .cycle path g) ∨ r.objections.head? = some e := by
  rw [r.result_eq] at h
  cases ha : r.assembly with
  | error e' =>
    rw [ha] at h
    obtain rfl := Except.error.inj h
    exact .inr ((r.checks_assembly.error_iff _).1 ha)
  | ok a =>
    rw [ha] at h
    change a.graph.checked = .error e at h
    obtain ⟨W, hunderway⟩ := underway_of_assembly ha
    rcases hunderway.checked_cases with ⟨hok, -⟩ | ⟨path, hcycle, -⟩
    · rw [hok] at h
      cases h
    · rw [hcycle] at h
      exact .inl ⟨path, a.graph, (Except.error.inj h).symm⟩

/-- An entrypoint is not found, or a service is the first one that something speaks against. -/
theorem head?_objections_cases {r : GraphSource} {e : GraphError}
    (h : r.objections.head? = some e) :
    (∃ identifier, e = .unknownEntrypoint identifier ⟨identifier⟩) ∨
      ∃ earlier s later, r.services = earlier ++ s :: later ∧
        withEarlier (serviceObjections r.pipelines) [] earlier = [] ∧
        (serviceObjections r.pipelines earlier s).head? = some e := by
  cases r with
  | pipeline s p => exact .inr (head?_withEarlier_eq_some h)
  | entrypoint t e' pipelines => exact t.head?_objections_cases h
  | entrypoints t l pipelines => exact t.head?_objections_cases h

end GraphSource

theorem Graph.mem_objections_of_forEntrypoints {t : Topology} {entrypoints : List Entrypoint}
    {pipelines : Pipelines} {e : GraphError}
    (h : forEntrypoints t entrypoints pipelines = .error e) :
    (∃ path g, e = .cycle path g) ∨ e ∈ t.objections pipelines entrypoints :=
  (GraphSource.first_objection (r := .entrypoints t entrypoints pipelines) h).imp_right
    List.mem_of_mem_head?

theorem Graph.mem_objections_of_forPipeline {s : Service} {p : Pipeline} {e : GraphError}
    (h : forPipeline s p = .error e) :
    (∃ path g, e = .cycle path g) ∨ e ∈ serviceObjections (.single s.serviceGroup p) [] s := by
  have hone : withEarlier (serviceObjections (.single s.serviceGroup p)) [] [s.withoutChildren] =
      serviceObjections (.single s.serviceGroup p) [] s := List.append_nil _
  rw [← hone]
  exact (GraphSource.first_objection (r := .pipeline s p) h).imp_right List.mem_of_mem_head?

/-- A graph is put together, with a cycle or without, when the selected services fit together.
Otherwise the error is the first objection to them. -/
theorem Graph.forEntrypoints_assembles_iff (t : Topology) (entrypoints : List Entrypoint)
    (pipelines : Pipelines) :
    ((∃ g, forEntrypoints t entrypoints pipelines = .ok g ∨
        ∃ path, forEntrypoints t entrypoints pipelines = .error (.cycle path g)) ↔
      t.Assemblable entrypoints pipelines) ∧
    (¬ t.Assemblable entrypoints pipelines →
      ∃ e, (t.objections pipelines entrypoints).head? = some e ∧
        forEntrypoints t entrypoints pipelines = .error e) := by
  have hchecks := Assembly.checks_addEntrypoints pipelines t entrypoints
  rw [← Topology.objections_eq_nil_iff, ← hchecks.exists_ok_iff]
  cases ha : Assembly.addEntrypoints pipelines t {} entrypoints with
  | ok a =>
    have hresult : forEntrypoints t entrypoints pipelines = a.graph.checked := by
      rw [forEntrypoints, ha]
      rfl
    rw [hresult]
    refine ⟨iff_of_true ⟨a.graph, ?_⟩ ⟨a, rfl⟩, fun h => absurd ⟨a, rfl⟩ h⟩
    rcases (Assembly.underway_of_addEntrypoints ha).checked_cases with ⟨hok, -⟩ | ⟨path, hcycle, -⟩
    · exact .inl hok
    · exact .inr ⟨path, hcycle⟩
  | error e =>
    have hresult : forEntrypoints t entrypoints pipelines = .error e := by
      rw [forEntrypoints, ha]
      rfl
    have hgraph := Assembly.graph?_eq_none_of_addEntrypoints ha
    rw [hresult]
    refine ⟨iff_of_false ?_ (by simp), fun _ => ⟨e, (hchecks.error_iff e).1 ha, rfl⟩⟩
    rintro ⟨g, h | ⟨path, h⟩⟩
    · cases h
    · obtain rfl := Except.error.inj h
      cases hgraph

end RolloutPlan
