import RolloutPlan.Proofs.Check
import RolloutPlan.Proofs.Contribution

/-!
# What speaks against a pipeline

A pipeline contributes to a graph unless something speaks against it, and then the first objection is
reported. The objections are read off the declarations alone.

* `Pipeline.requests`: the requests for a subscription that a pipeline makes.
* `Pipeline.objections`: everything that is wrong with a pipeline on its own, in the order of its groups
  and steps; dependencies come last.
* `Pipeline.Coherent`: no name is used twice, there is at most one request for a subscription, and
  dependencies are declared. `Pipeline.objections_eq_nil_iff`: then there are no objections.
* `Pipeline.checks_contribution`, `Pipeline.contributes_iff`: the contribution of a pipeline.
-/

namespace RolloutPlan

set_option autoImplicit false

/-! ## Requests for subscriptions -/

/-- The requests for a subscription that a resource group of a service makes. -/
def ResourceGroup.requests (serviceGroup : String) (g : ResourceGroup) : List Subscription :=
  (g.subscriptionProvisioning.map fun config => ⟨serviceGroup, g.name, config⟩).toList

/-- The requests for a subscription that a pipeline makes. -/
def Pipeline.requests (p : Pipeline) : List Subscription :=
  p.resourceGroups.flatMap (ResourceGroup.requests p.serviceGroup)

/-- Several things bring at most one together when each brings at most one, and none comes after another
one that brings something. -/
theorem length_flatMap_le_one_iff {α β : Type} {f : α → List β} {l : List α} :
    (l.flatMap f).length ≤ 1 ↔ (∀ a ∈ l, (f a).length ≤ 1) ∧
      ∀ l₁ a l₂, l = l₁ ++ a :: l₂ → f a = [] ∨ l₁.flatMap f = [] := by
  constructor
  · intro h
    have hsplit : ∀ l₁ a l₂, l = l₁ ++ a :: l₂ →
        (l₁.flatMap f).length + (f a).length ≤ 1 := by
      rintro l₁ a l₂ rfl
      simp only [List.flatMap_append, List.flatMap_cons, List.length_append] at h
      omega
    constructor
    · intro a ha
      obtain ⟨l₁, l₂, heq⟩ := List.append_of_mem ha
      have := hsplit l₁ a l₂ heq
      omega
    · intro l₁ a l₂ heq
      have := hsplit l₁ a l₂ heq
      simp only [← List.length_eq_zero_iff]
      omega
  · rintro ⟨hone, hnone⟩
    induction l using List.reverseRecOn with
    | nil => simp
    | append_singleton l a ih =>
      have ha := hone a (by simp)
      have hl := ih (fun b hb => hone b (List.mem_append_left _ hb)) fun l₁ b l₂ heq =>
        hnone l₁ b (l₂ ++ [a]) (by simp [heq])
      rw [List.flatMap_append, List.flatMap_singleton, List.length_append]
      rcases hnone l a [] rfl with h | h <;> rw [h, List.length_nil]
      · omega
      · omega

namespace Inventory

/-! ## Resource groups -/

/-- What speaks against a step of a resource group after some steps of the group. -/
def stepObjections (serviceGroup resourceGroup : String) (earlier : List Step) (s : Step) :
    List GraphError :=
  objectIf (s.name ∈ earlier.map Step.name) (.duplicateStep serviceGroup ⟨resourceGroup, s.name⟩)

/-- What speaks against a resource group after some resource groups of the service. -/
def groupObjections (serviceGroup : String) (earlier : List ResourceGroup) (g : ResourceGroup) :
    List GraphError :=
  objectIf (g.name ∈ earlier.map ResourceGroup.name)
      (.duplicateResourceGroup serviceGroup g.name) ++
    (objectIf (g.requests serviceGroup ≠ [] ∧
        earlier.flatMap (ResourceGroup.requests serviceGroup) ≠ [])
      (.severalSubscriptions serviceGroup) ++
    withEarlier (stepObjections serviceGroup g.name) [] g.steps)

/-- An inventory has the targets of some resource groups and their first request for a
subscription. -/
structure Lists (serviceGroup : String) (l : List ResourceGroup) (d : Inventory) : Prop where
  resourceGroups : d.resourceGroups = Sorted.ofPairs (l.map fun g => (g.name, g.target))
  subscription : d.subscription = (l.flatMap (ResourceGroup.requests serviceGroup)).head?

theorem Lists.isSome_lookup_iff {serviceGroup name : String} {l : List ResourceGroup} {d : Inventory}
    (h : d.Lists serviceGroup l) :
    (d.resourceGroups.lookup name).isSome ↔ name ∈ l.map ResourceGroup.name := by
  rw [SortedMap.isSome_lookup_iff, h.resourceGroups, Sorted.mem_keys_ofPairs, List.map_map]
  rfl

theorem checks_addSteps (serviceGroup resourceGroup : String) (l : List Step) :
    Checks (addSteps serviceGroup resourceGroup ∅ l)
      (withEarlier (stepObjections serviceGroup resourceGroup) [] l) fun _ => True := by
  refine (Checks.run
    (fun earlier known => ∀ name, name ∈ known.keys ↔ name ∈ earlier.map Step.name)
    (fun known s => if (known.lookup s.name).isSome then
      .error (.duplicateStep serviceGroup ⟨resourceGroup, s.name⟩)
      else .ok (Sorted.put s.name s known)) (fun _ => rfl) ?_ ?_ fun _ => Iff.rfl).mono
    fun _ _ => trivial
  · intro known s l
    rw [addSteps]
    split_ifs <;> rfl
  · intro earlier known s hknown
    simp only [SortedMap.isSome_lookup_iff, hknown]
    rw [stepObjections, ← List.append_nil (objectIf _ _)]
    refine .guard fun _ => .ok ?_
    intro name
    rw [Sorted.mem_keys_put, hknown, List.map_append, List.mem_append, or_comm]
    simp

theorem checks_addSubscription (serviceGroup : String) (known : Option Subscription)
    (g : ResourceGroup) : Checks (addSubscription serviceGroup known g)
      (objectIf (g.requests serviceGroup ≠ [] ∧ known.isSome) (.severalSubscriptions serviceGroup))
      fun s => s = known.or (g.requests serviceGroup).head? := by
  unfold addSubscription ResourceGroup.requests
  cases g.subscriptionProvisioning with
  | none => exact .ok (by simp)
  | some config =>
    cases known with
    | none => exact .ok (by simp)
    | some s => exact .error _ _

theorem checks_addGroup {serviceGroup : String} {d : Inventory} {l : List ResourceGroup}
    (h : d.Lists serviceGroup l) (g : ResourceGroup) :
    Checks (d.addGroup serviceGroup g) (groupObjections serviceGroup l g)
      (Lists serviceGroup (l ++ [g])) := by
  have hsubscription := checks_addSubscription serviceGroup d.subscription g
  have hsome : d.subscription.isSome ↔
      l.flatMap (ResourceGroup.requests serviceGroup) ≠ [] := by
    rw [h.subscription, List.isSome_head?]
  simp only [hsome] at hsubscription
  unfold addGroup groupObjections
  simp only [h.isSome_lookup_iff]
  refine .guard fun _ => hsubscription.bind fun subscription hs => ?_
  refine (checks_addSteps ..).bind_ok fun steps _ => .ok ?_
  constructor
  · rw [List.map_append, List.map_singleton, Sorted.ofPairs_concat, h.resourceGroups]
  · rw [hs, h.subscription, List.flatMap_append, List.flatMap_singleton, List.head?_append]

theorem checks_addGroups (serviceGroup : String) (l : List ResourceGroup) :
    Checks (addGroups serviceGroup {} l) (withEarlier (groupObjections serviceGroup) [] l)
      (Lists serviceGroup l) :=
  Checks.run (Lists serviceGroup) (addGroup serviceGroup) (fun _ => rfl) (fun _ _ _ => rfl)
    (fun _ _ g h => checks_addGroup h g) ⟨rfl, rfl⟩

end Inventory

/-! ## Dependencies -/

namespace Edge

theorem checks_toStep (serviceGroup : String) (d : Inventory) (step : StepReference) :
    ∀ l : List StepReference, Checks (toStep serviceGroup d step l)
      ((l.filter fun r => !d.contains r).map (.unknownDependency serviceGroup step)) fun _ => True
  | [] => .ok trivial
  | r :: l => by
    rw [toStep, List.filter_cons]
    by_cases hr : d.contains r
    · rw [if_pos hr, hr]
      exact (checks_toStep serviceGroup d step l).bind_ok fun _ _ => .ok trivial
    · rw [if_neg hr, if_pos (by simpa using hr)]
      exact .error _ _

theorem checks_toSteps (serviceGroup : String) (d : Inventory) :
    ∀ l : List (ResourceGroup × Step), Checks (toSteps serviceGroup d l)
      (l.flatMap fun e => (e.2.dependencySet.filter fun r => !d.contains r).map
        (.unknownDependency serviceGroup (Pipeline.referenceOf e))) fun _ => True
  | [] => .ok trivial
  | (g, s) :: l => by
    rw [toSteps, List.flatMap_cons]
    exact (checks_toStep serviceGroup d _ _).bind fun _ _ =>
      (checks_toSteps serviceGroup d l).bind_ok fun _ _ => .ok trivial

end Edge

namespace Pipeline

/-- The dependencies of a step that are not declared. -/
def dependencyObjections (p : Pipeline) (d : ResourceGroup × Step) : List GraphError :=
  (d.2.dependencySet.filter (· ∉ p.references)).map
    (.unknownDependency p.serviceGroup (referenceOf d))

/-- Everything that speaks against a pipeline on its own. -/
def objections (p : Pipeline) : List GraphError :=
  withEarlier (Inventory.groupObjections p.serviceGroup) [] p.resourceGroups ++
    p.declaredSteps.flatMap p.dependencyObjections

/-- A pipeline contributes unless something speaks against it. -/
theorem checks_contribution (p : Pipeline) :
    Checks p.contribution p.objections fun c =>
      c.inventory.Lists p.serviceGroup p.resourceGroups := by
  have hgroups := (Inventory.checks_addGroups p.serviceGroup p.resourceGroups).and_property
    fun d hd => Inventory.addGroups_registers hd Inventory.registers_empty
  refine hgroups.bind ?_
  rintro d ⟨hregisters, hlists⟩
  have hcontains : ∀ r, (!d.contains r) = decide (r ∉ p.references) := by
    intro r
    rw [Inventory.contains_eq, Bool.eq_iff_iff]
    simp [mem_references, ← declares_iff_find? hregisters, Option.eq_none_iff_forall_ne_some]
  have hedges := Edge.checks_toSteps p.serviceGroup d p.declaredSteps
  simp only [hcontains] at hedges
  exact hedges.bind_ok fun _ _ => .ok hlists

/-! ## Coherent pipelines -/

/-- No name is used twice, at most one subscription is asked for, and dependencies are declared. -/
structure Coherent (p : Pipeline) : Prop where
  distinct_groups : (p.resourceGroups.map ResourceGroup.name).Nodup
  distinct_steps : ∀ g ∈ p.resourceGroups, (g.steps.map Step.name).Nodup
  one_request : p.requests.length ≤ 1
  declared : ∀ d ∈ p.declaredSteps, ∀ r ∈ d.2.dependencySet, r ∈ p.references

theorem groupObjections_eq_nil_iff (p : Pipeline) :
    withEarlier (Inventory.groupObjections p.serviceGroup) [] p.resourceGroups = [] ↔
      (p.resourceGroups.map ResourceGroup.name).Nodup ∧
        (∀ g ∈ p.resourceGroups, (g.steps.map Step.name).Nodup) ∧ p.requests.length ≤ 1 := by
  have hsteps : ∀ g : ResourceGroup,
      withEarlier (Inventory.stepObjections p.serviceGroup g.name) [] g.steps = [] ↔
        (g.steps.map Step.name).Nodup :=
    fun g => withEarlier_objectIf_mem_eq_nil_iff Step.name _
  simp only [withEarlier_eq_nil_iff, Inventory.groupObjections, List.nil_append,
    List.append_eq_nil_iff, objectIf_eq_nil_iff, hsteps, not_and_not_right]
  rw [nodup_map_iff, requests, length_flatMap_le_one_iff]
  constructor
  · intro h
    refine ⟨fun l₁ g l₂ heq => (h l₁ g l₂ heq).1, ?_, ?_, ?_⟩
    · intro g hg
      obtain ⟨l₁, l₂, heq⟩ := List.append_of_mem hg
      exact (h l₁ g l₂ heq).2.2
    · intro g _
      exact Option.length_toList_le
    · intro l₁ g l₂ heq
      exact or_iff_not_imp_left.2 (h l₁ g l₂ heq).2.1
  · rintro ⟨hgroups, hsteps, _, hrequests⟩ l₁ g l₂ heq
    exact ⟨hgroups l₁ g l₂ heq, or_iff_not_imp_left.1 (hrequests l₁ g l₂ heq),
      hsteps g (by simp [heq])⟩

/-- Nothing speaks against a pipeline that is coherent. -/
theorem objections_eq_nil_iff (p : Pipeline) : p.objections = [] ↔ p.Coherent := by
  have hdependencies : p.declaredSteps.flatMap p.dependencyObjections = [] ↔
      ∀ d ∈ p.declaredSteps, ∀ r ∈ d.2.dependencySet, r ∈ p.references := by
    simp [dependencyObjections]
  rw [objections, List.append_eq_nil_iff, groupObjections_eq_nil_iff, hdependencies]
  constructor
  · rintro ⟨⟨hgroups, hsteps, hrequests⟩, hdeclared⟩
    exact ⟨hgroups, hsteps, hrequests, hdeclared⟩
  · rintro ⟨hgroups, hsteps, hrequests, hdeclared⟩
    exact ⟨⟨hgroups, hsteps, hrequests⟩, hdeclared⟩

/-- A pipeline that is coherent contributes, and no other. -/
theorem contributes_iff (p : Pipeline) : (∃ c, p.contribution = .ok c) ↔ p.Coherent := by
  rw [p.checks_contribution.exists_ok_iff, objections_eq_nil_iff]

end Pipeline

end RolloutPlan
