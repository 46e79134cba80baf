import RolloutPlan.Proofs.PipelineObjections

/-!
# Inventories as tables

An inventory is filled resource group by resource group. When nothing speaks against the groups, it is the
tables of what they declare, and the order in which it was filled does not show.

* `ResourceGroup.registry`, `ResourceGroup.validations`: the steps and the validation steps of a resource
  group with the keys that they are filed under.
* `Inventory.ofGroups`: the tables of some resource groups.
* `Inventory.addGroup_eq`, `Inventory.addGroups_eq`: one resource group adds its declarations to the tables,
  and all of them fill them.
* `Pipeline.inventory_eq`: the inventory of a contribution.
-/

namespace RolloutPlan

set_option autoImplicit false

/-- The steps of a resource group by name. -/
def ResourceGroup.registry (g : ResourceGroup) : SortedMap String Step :=
  Sorted.ofPairs (g.steps.map fun s => (s.name, s))

/-- The validation steps of a resource group, each under the identifier that its name makes. -/
def ResourceGroup.validations (serviceGroup : String) (g : ResourceGroup) :
    List (Identifier × ValidationStep) :=
  g.validationSteps.map fun s => (⟨serviceGroup, g.name, s.header.name⟩, s)

/-- The validation steps of a pipeline, in the order of their declarations. -/
def Pipeline.validations (p : Pipeline) : List (Identifier × ValidationStep) :=
  p.resourceGroups.flatMap (ResourceGroup.validations p.serviceGroup)

theorem ResourceGroup.place_of_mem_validations {serviceGroup : String} {g : ResourceGroup}
    {e : Identifier × ValidationStep} (h : e ∈ g.validations serviceGroup) :
    e.1.serviceGroup = serviceGroup ∧ e.1.resourceGroup = g.name := by
  obtain ⟨s, -, rfl⟩ := List.mem_map.1 h
  exact ⟨rfl, rfl⟩

theorem Pipeline.serviceGroup_of_mem_validations {p : Pipeline} {e : Identifier × ValidationStep}
    (h : e ∈ p.validations) : e.1.serviceGroup = p.serviceGroup := by
  obtain ⟨g, -, he⟩ := List.mem_flatMap.1 h
  exact (ResourceGroup.place_of_mem_validations he).1

namespace Inventory

/-- The tables of what some resource groups declare. -/
def ofGroups (serviceGroup : String) (l : List ResourceGroup) : Inventory where
  resourceGroups := Sorted.ofPairs (l.map fun g => (g.name, g.target))
  subscription := (l.flatMap (ResourceGroup.requests serviceGroup)).head?
  steps := ⟨Sorted.ofPairs (l.map fun g => (g.name, g.registry))⟩
  validationSteps := Sorted.ofPairs (l.flatMap (ResourceGroup.validations serviceGroup))

theorem addSteps_eq {group : String} {g : ResourceGroup} {m : SortedMap String Step}
    (h : addSteps group g.name ∅ g.steps = .ok m) : m = g.registry := by
  have hperm := addSteps_perm h
  rw [SortedMap.entries_empty, List.append_nil] at hperm
  have hnames : ((g.steps.map fun s => (s.name, s)).map Prod.fst).Nodup :=
    (hperm.map Prod.fst).nodup_iff.1 m.nodup_keys
  exact SortedMap.ext_of_perm (hperm.trans (Sorted.ofPairs_perm hnames).symm)

theorem addValidationSteps_eq (group : String) (g : ResourceGroup)
    (l : List (Identifier × ValidationStep)) :
    addValidationSteps group g.name (Sorted.ofPairs l) g.validationSteps =
      Sorted.ofPairs (l ++ g.validations group) := by
  rw [addValidationSteps, Sorted.ofPairs, Sorted.ofPairs, List.foldl_append,
    ResourceGroup.validations, List.foldl_map]

/-- A resource group adds its declarations to the tables. -/
theorem addGroup_eq {group : String} {l : List ResourceGroup} {g : ResourceGroup} {d : Inventory}
    (h : (ofGroups group l).addGroup group g = .ok d) : d = ofGroups group (l ++ [g]) := by
  unfold addGroup at h
  split_ifs at h
  · exact absurd h throw_bind_ne_ok
  · simp only [bind_eq_ok] at h
    obtain ⟨subscription, hsubscription, steps, hsteps, h⟩ := h
    obtain rfl := Except.ok.inj h
    obtain rfl := addSteps_eq hsteps
    obtain rfl := (checks_addSubscription group _ g).property subscription hsubscription
    simp only [ofGroups, List.map_append, List.flatMap_append, List.map_singleton,
      List.flatMap_singleton, Sorted.ofPairs_concat, List.head?_append, addValidationSteps_eq]

theorem addGroups_eq {group : String} : ∀ {l known : List ResourceGroup} {d : Inventory},
    addGroups group (ofGroups group known) l = .ok d → d = ofGroups group (known ++ l)
  | [], known, d, h => by
    rw [List.append_nil]
    exact (Except.ok.inj h).symm
  | g :: l, known, d, h => by
    rw [addGroups, bind_eq_ok] at h
    obtain ⟨d₁, h₁, h⟩ := h
    obtain rfl := addGroup_eq h₁
    rw [List.append_cons]
    exact addGroups_eq h

end Inventory

/-- The inventory of a contribution is the tables of what the pipeline declares. -/
theorem Pipeline.inventory_eq {p : Pipeline} {c : Contribution} (h : p.contribution = .ok c) :
    c.inventory = .ofGroups p.serviceGroup p.resourceGroups := by
  unfold contribution at h
  simp only [bind_eq_ok] at h
  obtain ⟨d, hd, _, _, h⟩ := h
  obtain rfl := Except.ok.inj h
  have hempty : Inventory.addGroups p.serviceGroup (.ofGroups p.serviceGroup []) p.resourceGroups =
      .ok d := hd
  exact Inventory.addGroups_eq hempty

end RolloutPlan
