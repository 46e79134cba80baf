import RolloutPlan.Pipeline.Validation
import RolloutPlan.Proofs.AssemblyOutcome
import RolloutPlan.Proofs.SingleService

/-!
# The validation steps of a graph

A graph files the validation steps of its services under the identifiers that their names make. Unlike
the names of steps, these names are not compared: of several validation steps of one resource group with
one name, the last one is kept and the others are lost. Nothing else is lost.

* `Graph.Keeps.validationSteps_eq`: a graph has the table of all validation steps that are declared.
* `Pipeline.nodup_validations_iff`, `Pipelines.nodup_validations_iff`: identifiers are told apart when the
  names in every resource group are.
* `GraphSource.validationSteps_of_assembles`: which validation steps a graph keeps, and when it keeps all
  of them.
* `RepeatedCheck`: a service with two validation steps, which may have one name.
-/

namespace RolloutPlan

set_option autoImplicit false

/-! ## The table of validation steps -/

/-- The validation steps of the services that are put into a graph, in the order of their
declarations. -/
def GraphSource.validations (r : GraphSource) : List (Identifier × ValidationStep) :=
  (r.pipelines.ofServices r.services).flatMap Pipeline.validations

/-- A graph has the table of all validation steps that are declared. -/
theorem Graph.Keeps.validationSteps_eq {pipelines : Pipelines} {l : List Service} {g : Graph}
    (h : g.Keeps pipelines l) (hsupplied : ∀ s ∈ l, Supplied pipelines s.serviceGroup) :
    g.validationSteps =
      Sorted.ofPairs ((pipelines.ofServices l).flatMap Pipeline.validations) := by
  have hone : ∀ s ∈ l, ∃ p, pipelines.lookup s.serviceGroup = some p ∧
      (inventoryOf pipelines s.serviceGroup).validationSteps.entries =
        (Sorted.ofPairs p.validations).entries := by
    intro s hs
    obtain ⟨c, hc⟩ := hsupplied s hs
    obtain ⟨p, hp, -, hcontribution⟩ := contributionOf_eq_ok.1 hc
    refine ⟨p, hp, ?_⟩
    rw [inventoryOf_eq hc, p.inventory_eq hcontribution]
    rfl
  rw [h.validationSteps, Pipelines.flatMap_ofServices hone, Sorted.ofPairs_flatMap_ofPairs]

/-! ## Identifiers that are told apart -/

/-- The identifiers of the validation steps of a pipeline are told apart by the names in every resource
group. -/
theorem Pipeline.nodup_validations_iff {p : Pipeline}
    (hp : (p.resourceGroups.map ResourceGroup.name).Nodup) :
    (p.validations.map Prod.fst).Nodup ↔
      ∀ g ∈ p.resourceGroups, (g.validationSteps.map (·.header.name)).Nodup := by
  have hgroup : ∀ g : ResourceGroup, ∀ i ∈ (g.validations p.serviceGroup).map Prod.fst,
      i.resourceGroup = g.name := by
    intro g i hi
    obtain ⟨e, he, rfl⟩ := List.mem_map.1 hi
    exact (ResourceGroup.place_of_mem_validations he).2
  have hnames : ∀ g : ResourceGroup, ((g.validations p.serviceGroup).map Prod.fst).Nodup ↔
      (g.validationSteps.map (·.header.name)).Nodup := by
    intro g
    have hinjective : Function.Injective (Identifier.mk p.serviceGroup g.name) := by
      intro a b hab
      exact (Identifier.mk.inj hab).2.2
    rw [← List.nodup_map_iff hinjective, List.map_map, ResourceGroup.validations, List.map_map]
    rfl
  rw [validations, List.map_flatMap, nodup_flatMap_of_key hgroup hp]
  simp only [hnames]

/-- The identifiers of the validation steps of several pipelines are told apart by the names in every
resource group. -/
theorem Pipelines.nodup_validations_iff {pipelines : Pipelines} {l : List Service}
    (hfit : withEarlier (serviceObjections pipelines) [] l = []) :
    (((pipelines.ofServices l).flatMap Pipeline.validations).map Prod.fst).Nodup ↔
      ∀ p ∈ pipelines.ofServices l, ∀ g ∈ p.resourceGroups,
        (g.validationSteps.map (·.header.name)).Nodup := by
  obtain ⟨hdistinct, hsupplied, hcoherent, -, -⟩ := withEarlier_serviceObjections_eq_nil_iff.1 hfit
  have hkeys : ((pipelines.ofServices l).map Pipeline.serviceGroup).Nodup := by
    have hgroups : l.flatMap (fun s => [s.serviceGroup]) =
        (pipelines.ofServices l).flatMap fun p => [p.serviceGroup] := by
      refine flatMap_ofServices fun s hs => ?_
      obtain ⟨p, hp, hgroup⟩ := hsupplied s hs
      exact ⟨p, hp, by rw [hgroup]⟩
    rwa [List.map_eq_flatMap, ← hgroups, ← List.map_eq_flatMap]
  have hservice : ∀ p : Pipeline, ∀ i ∈ p.validations.map Prod.fst,
      i.serviceGroup = p.serviceGroup := by
    intro p i hi
    obtain ⟨e, he, rfl⟩ := List.mem_map.1 hi
    exact p.serviceGroup_of_mem_validations he
  rw [List.map_flatMap, nodup_flatMap_of_key hservice hkeys]
  exact forall₂_congr fun p hp => Pipeline.nodup_validations_iff (hcoherent p hp).distinct_groups

/-! ## Graphs -/

namespace GraphSource
variable {r : GraphSource} {g : Graph}

theorem Assembles.validationSteps_eq (h : r.Assembles g) :
    g.validationSteps = Sorted.ofPairs r.validations := by
  obtain ⟨a, ha, rfl⟩ := h.exists_assembly
  obtain ⟨W, hunderway⟩ := underway_of_assembly ha
  refine (keeps_of_assembly ha).validationSteps_eq ?_
  rw [← r.visits_services]
  intro s hs
  obtain ⟨v, hv, rfl⟩ := List.mem_map.1 hs
  exact hunderway.assembled.supplied v hv

theorem Assembles.nodup_validations_iff (h : r.Assembles g) : (r.validations.map Prod.fst).Nodup ↔
    ∀ p ∈ r.pipelines.ofServices r.services, ∀ x ∈ p.resourceGroups,
      (x.validationSteps.map (·.header.name)).Nodup := by
  obtain ⟨a, ha, -⟩ := h.exists_assembly
  exact Pipelines.nodup_validations_iff (serviceObjections_eq_nil_of_assembly ha)

/-- A graph keeps the last validation step that is declared under an identifier. It keeps all of them when
the validation steps of every resource group have different names, and only then. -/
theorem validationSteps_of_assembles (h : r.Assembles g) :
    (∀ i, g.validationSteps.lookup i =
      ((r.validations.filter (·.1 = i)).getLast?).map Prod.snd) ∧
    (((∀ e ∈ r.validations, g.validationSteps.lookup e.1 = some e.2) ∧
        g.validationSteps.length = r.validations.length) ↔
      ∀ p ∈ r.pipelines.ofServices r.services, ∀ x ∈ p.resourceGroups,
        (x.validationSteps.map (·.header.name)).Nodup) := by
  rw [h.validationSteps_eq, ← h.nodup_validations_iff]
  refine ⟨Sorted.lookup_ofPairs_eq_getLast? r.validations, ?_⟩
  constructor
  · rintro ⟨-, hlength⟩
    exact Sorted.length_ofPairs_eq_iff.1 hlength
  · intro hdistinct
    refine ⟨fun e he => ?_, Sorted.length_ofPairs_eq_iff.2 hdistinct⟩
    rw [Sorted.lookup_ofPairs hdistinct, Sorted.lookup_eq_some_iff_mem hdistinct]
    exact he

end GraphSource

/-! ## Two validation steps of one resource group -/

namespace RepeatedCheck

def ping : ValidationStep := ⟨{ name := "smoke" }, { command := "make ping" }⟩

def load : ValidationStep := ⟨{ name := "load" }, { command := "make load" }⟩

/-- It has the name of another one. -/
def resolve : ValidationStep := ⟨{ name := "smoke" }, { command := "make resolve" }⟩

def pipeline (first second : ValidationStep) : Pipeline where
  serviceGroup := "network"
  resourceGroups := [{ target := ⟨"rg", "rg", "main", []⟩, validationSteps := [first, second] }]

/-- A service with two validation steps and no other steps. -/
def source (first second : ValidationStep) : GraphSource :=
  .pipeline { serviceGroup := "network" } (pipeline first second)

def validations (first second : ValidationStep) : List (Identifier × ValidationStep) :=
  [(⟨"network", "rg", first.header.name⟩, first), (⟨"network", "rg", second.header.name⟩, second)]

theorem validations_source (first second : ValidationStep) :
    (source first second).validations = validations first second := rfl

theorem exists_graph (first second : ValidationStep) : ∃ g, (source first second).Assembles g := by
  have hcoherent : (pipeline first second).Coherent := ⟨by simp [pipeline], by simp [pipeline],
    by simp [pipeline, Pipeline.requests, ResourceGroup.requests],
    by simp [pipeline, Pipeline.declaredSteps]⟩
  have hacyclic : ¬ (pipeline first second).IsCyclic := by
    rintro ⟨r, hr⟩
    obtain ⟨_, ⟨_, ⟨_, hstep, -⟩, -⟩, -⟩ := Relation.TransGen.head'_iff.1 hr
    exact absurd hstep List.not_mem_nil
  obtain ⟨a, -, hgraph, -⟩ := Graph.exists_forPipeline (s := { serviceGroup := "network" }) rfl
    hcoherent hacyclic
  exact ⟨a.graph, .inl hgraph⟩

end RepeatedCheck

/-- With different names both validation steps are kept. -/
theorem GraphSource.validationSteps_with_two_names : ∃ g,
    (RepeatedCheck.source RepeatedCheck.ping RepeatedCheck.load).Assembles g ∧
    g.validationSteps.lookup ⟨"network", "rg", "smoke"⟩ = some RepeatedCheck.ping ∧
    g.validationSteps.lookup ⟨"network", "rg", "load"⟩ = some RepeatedCheck.load ∧
    g.validationSteps.length = 2 := by
  obtain ⟨g, h⟩ := RepeatedCheck.exists_graph RepeatedCheck.ping RepeatedCheck.load
  obtain ⟨hkept, hlength⟩ := (validationSteps_of_assembles h).2.2 (by
    intro p hp x hx
    obtain rfl := List.mem_singleton.1 hp
    obtain rfl := List.mem_singleton.1 hx
    decide)
  rw [RepeatedCheck.validations_source] at hkept hlength
  exact ⟨g, h, hkept _ (.head _), hkept _ (.tail _ (.head _)), hlength⟩

/-- With one name the first validation step is lost, and nothing is said against it. -/
theorem GraphSource.validationSteps_with_one_name : ∃ g,
    (RepeatedCheck.pipeline RepeatedCheck.ping RepeatedCheck.resolve).validate = .ok () ∧
    (RepeatedCheck.source RepeatedCheck.ping RepeatedCheck.resolve).Assembles g ∧
    (∃ e ∈ (RepeatedCheck.source RepeatedCheck.ping RepeatedCheck.resolve).validations,
      g.validationSteps.lookup e.1 ≠ some e.2) ∧
    g.validationSteps.length ≠
      (RepeatedCheck.source RepeatedCheck.ping RepeatedCheck.resolve).validations.length := by
  obtain ⟨g, h⟩ := RepeatedCheck.exists_graph RepeatedCheck.ping RepeatedCheck.resolve
  have htable : g.validationSteps =
      Sorted.ofPairs [(⟨"network", "rg", "smoke"⟩, RepeatedCheck.resolve)] := by
    rw [h.validationSteps_eq]
    rfl
  refine ⟨g, rfl, h, ⟨_, .head _, ?_⟩, ?_⟩
  · rw [htable]
    intro hlookup
    have hcommand := congrArg (fun s => s.shell.command) (Option.some.inj hlookup)
    revert hcommand
    decide
  · rw [htable, RepeatedCheck.validations_source]
    decide

end RolloutPlan
