import Mathlib.Data.List.Perm.Basic
import RolloutPlan.Proofs.Block
import RolloutPlan.Proofs.Inventory

/-!
# Declarations in another order

Authors may write the resource groups of a pipeline, and the steps of a resource group, in any order: what
the pipeline contributes to a graph is filed under names, and edges are sorted.

* `ResourceGroup.Reordered`, `Pipeline.Reordered`, `Pipelines.Reordered`: the same declarations, possibly in
  another order.
* `Inventory.ofGroups_eq_of_perm`, `Inventory.ofGroups_eq_of_forall₂`: the tables of reordered resource
  groups are the same.
* `Contribution.Presents.node_eq`: a node is known from the declarations.
* `Pipeline.Reordered.contribution_eq_ok`, `Pipelines.Reordered.contributes`: reordered pipelines contribute
  the same.
-/

namespace RolloutPlan

set_option autoImplicit false

/-! ## Lists that are related element by element -/

section Related
variable {α β : Type} {R : α → α → Prop} {l m : List α}

theorem forall_mem_of_forall₂ {P : α → Prop} (h : List.Forall₂ R l m) (hP : ∀ a b, R a b → P a → P b)
    (hl : ∀ a ∈ l, P a) : ∀ b ∈ m, P b := by
  induction h with
  | nil => exact hl
  | cons hab _ ih =>
    obtain ⟨ha, hl⟩ := List.forall_mem_cons.1 hl
    exact List.forall_mem_cons.2 ⟨hP _ _ hab ha, ih hl⟩

theorem map_eq_of_forall₂ {f : α → β} (h : List.Forall₂ R l m)
    (hf : ∀ a ∈ l, ∀ b, R a b → f a = f b) : l.map f = m.map f := by
  induction h with
  | nil => rfl
  | cons hab _ ih =>
    rw [List.map_cons, List.map_cons, hf _ List.mem_cons_self _ hab,
      ih fun a ha => hf a (List.mem_cons_of_mem _ ha)]

theorem flatMap_perm_of_forall₂ {f : α → List β} (h : List.Forall₂ R l m)
    (hf : ∀ a b, R a b → (f a).Perm (f b)) : (l.flatMap f).Perm (m.flatMap f) := by
  induction h with
  | nil => exact .refl _
  | cons hab _ ih => exact (hf _ _ hab).append ih

theorem eq_of_perm_of_length_le_one {l m : List β} (h : l.Perm m) (hl : l.length ≤ 1) : l = m := by
  cases l with
  | nil => exact h.nil_eq
  | cons a l =>
    obtain rfl : l = [] := List.length_eq_zero_iff.1 (by simpa using hl)
    exact (List.perm_singleton.1 h.symm).symm

theorem rel_symm (hR : ∀ a b, R a b → R b a) : ∀ {x y : Option α}, Option.Rel R x y →
    Option.Rel R y x
  | _, _, .none => .none
  | _, _, .some hab => .some (hR _ _ hab)

theorem exists_of_rel_some {a : α} : ∀ {y : Option α}, Option.Rel R (some a) y →
    ∃ b, y = some b ∧ R a b
  | _, .some hab => ⟨_, rfl, hab⟩

end Related

/-! ## Reordered pipelines -/

/-- Resource groups that declare the same, possibly in another order. Of validation steps with one name the
order counts. -/
structure ResourceGroup.Reordered (g h : ResourceGroup) : Prop where
  target : g.target = h.target
  subscriptionProvisioning : g.subscriptionProvisioning = h.subscriptionProvisioning
  steps : g.steps.Perm h.steps
  validationSteps : ∀ name, g.validationSteps.filter (·.header.name = name) =
    h.validationSteps.filter (·.header.name = name)

/-- Pipelines of one service that declare the same, possibly in another order. -/
structure Pipeline.Reordered (p q : Pipeline) : Prop where
  serviceGroup : p.serviceGroup = q.serviceGroup
  resourceGroups : ∃ l, p.resourceGroups.Perm l ∧
    List.Forall₂ ResourceGroup.Reordered l q.resourceGroups

/-- The same services have pipelines, and these are reordered. -/
def Pipelines.Reordered (pipelines pipelines' : Pipelines) : Prop :=
  ∀ group, Option.Rel Pipeline.Reordered (pipelines.lookup group) (pipelines'.lookup group)

namespace ResourceGroup.Reordered
variable {g h : ResourceGroup} (hgh : g.Reordered h)
include hgh

theorem symm : h.Reordered g :=
  ⟨hgh.target.symm, hgh.subscriptionProvisioning.symm, hgh.steps.symm,
    fun name => (hgh.validationSteps name).symm⟩

theorem name_eq : g.name = h.name := congrArg ResourceGroupTarget.name hgh.target

theorem requests_eq (serviceGroup : String) : g.requests serviceGroup = h.requests serviceGroup := by
  rw [requests, requests, hgh.subscriptionProvisioning, hgh.name_eq]

theorem declared_perm : (Inventory.declared g).Perm (Inventory.declared h) := by
  rw [Inventory.declared, Inventory.declared, hgh.name_eq]
  exact hgh.steps.map _

theorem registry_eq (hsteps : (g.steps.map Step.name).Nodup) : g.registry = h.registry := by
  refine Sorted.ofPairs_eq_of_perm (hgh.steps.map _) ?_
  rw [List.map_map]
  exact hsteps

omit hgh in
/-- Only validation steps with the name of an identifier are filed under it. -/
theorem filter_validations (serviceGroup : String) (g : ResourceGroup) (i : Identifier) :
    (g.validations serviceGroup).filter (·.1 = i) =
      ((g.validationSteps.filter (·.header.name = i.step)).map fun s =>
        (⟨serviceGroup, g.name, s.header.name⟩, s)).filter (·.1 = i) := by
  rw [validations, List.filter_map, List.filter_map, List.filter_filter]
  congr 1
  refine List.filter_congr fun s _ => ?_
  rw [Bool.eq_iff_iff]
  simp only [Function.comp_apply, decide_eq_true_eq, Bool.and_eq_true]
  refine ⟨fun hi => ⟨hi, ?_⟩, And.left⟩
  rw [← hi]

theorem ofPairs_validations_eq (serviceGroup : String) :
    Sorted.ofPairs (g.validations serviceGroup) = Sorted.ofPairs (h.validations serviceGroup) := by
  refine SortedMap.ext_of_lookup fun i => ?_
  rw [Sorted.lookup_ofPairs_eq_getLast?, Sorted.lookup_ofPairs_eq_getLast?, filter_validations,
    filter_validations, hgh.validationSteps, hgh.name_eq]

end ResourceGroup.Reordered

/-! ## Tables -/

namespace Inventory

/-- The tables do not depend on the order of the resource groups. -/
theorem ofGroups_eq_of_perm {serviceGroup : String} {l m : List ResourceGroup} (h : l.Perm m)
    (hnames : (l.map ResourceGroup.name).Nodup)
    (hrequests : (l.flatMap (ResourceGroup.requests serviceGroup)).length ≤ 1) :
    ofGroups serviceGroup l = ofGroups serviceGroup m := by
  have htable : ∀ {ν : Type} (f : ResourceGroup → ν),
      Sorted.ofPairs (l.map fun g => (g.name, f g)) = Sorted.ofPairs (m.map fun g => (g.name, f g)) := by
    intro ν f
    refine Sorted.ofPairs_eq_of_perm (h.map _) ?_
    rw [List.map_map]
    exact hnames
  have hkeys : ∀ g : ResourceGroup,
      ∀ i ∈ (Sorted.ofPairs (g.validations serviceGroup)).keys, i.resourceGroup = g.name := by
    intro g i hi
    rw [Sorted.mem_keys_ofPairs] at hi
    obtain ⟨e, he, rfl⟩ := List.mem_map.1 hi
    exact (ResourceGroup.place_of_mem_validations he).2
  have hvalidations : Sorted.ofPairs (l.flatMap (ResourceGroup.validations serviceGroup)) =
      Sorted.ofPairs (m.flatMap (ResourceGroup.validations serviceGroup)) := by
    -- A name may be repeated within a group, so each group gets a table of its own before the groups
    -- change places.
    rw [← Sorted.ofPairs_flatMap_ofPairs, ← Sorted.ofPairs_flatMap_ofPairs _ m]
    refine Sorted.ofPairs_eq_of_perm (h.flatMap_right _) ?_
    rw [List.map_flatMap]
    exact (nodup_flatMap_of_key hkeys hnames).2 fun g _ => (Sorted.ofPairs _).nodup_keys
  have hsubscription := eq_of_perm_of_length_le_one
    (h.flatMap_right (ResourceGroup.requests serviceGroup)) hrequests
  rw [ofGroups, ofGroups, htable, htable, hvalidations, hsubscription]

/-- The tables do not depend on the order of the steps. -/
theorem ofGroups_eq_of_forall₂ {serviceGroup : String} {l m : List ResourceGroup}
    (h : List.Forall₂ ResourceGroup.Reordered l m)
    (hsteps : ∀ g ∈ l, (g.steps.map Step.name).Nodup) :
    ofGroups serviceGroup l = ofGroups serviceGroup m := by
  have htargets : (l.map fun g => (g.name, g.target)) = m.map fun g => (g.name, g.target) :=
    map_eq_of_forall₂ h fun g _ g' hg => by rw [hg.name_eq, hg.target]
  have hregistries : (l.map fun g => (g.name, g.registry)) = m.map fun g => (g.name, g.registry) :=
    map_eq_of_forall₂ h fun g hmem g' hg => by rw [hg.name_eq, hg.registry_eq (hsteps g hmem)]
  have hrequests : l.flatMap (ResourceGroup.requests serviceGroup) =
      m.flatMap (ResourceGroup.requests serviceGroup) := by
    rw [List.flatMap_def, List.flatMap_def,
      map_eq_of_forall₂ h fun g _ g' hg => hg.requests_eq serviceGroup]
  have hvalidations : Sorted.ofPairs (l.flatMap (ResourceGroup.validations serviceGroup)) =
      Sorted.ofPairs (m.flatMap (ResourceGroup.validations serviceGroup)) := by
    rw [← Sorted.ofPairs_flatMap_ofPairs, ← Sorted.ofPairs_flatMap_ofPairs _ m, List.flatMap_def,
      List.flatMap_def, map_eq_of_forall₂ h fun g _ g' hg =>
        congrArg SortedMap.entries (hg.ofPairs_validations_eq serviceGroup)]
  rw [ofGroups, ofGroups, htargets, hregistries, hrequests, hvalidations]

end Inventory

/-! ## Nodes -/

/-- A node is known from its identifier and the declarations. -/
theorem Contribution.Presents.node_eq {c c' : Contribution} {p q : Pipeline} (hc : c.Presents p)
    (hc' : c'.Presents q) (hgroup : p.serviceGroup = q.serviceGroup)
    (hdeclares : ∀ r s, p.Declares r s ↔ q.Declares r s) {n n' : Node} (hn : n ∈ c.nodes)
    (hn' : n' ∈ c'.nodes) (hid : n.identifier = n'.identifier) : n = n' := by
  obtain ⟨hservice, s, hs, hparents⟩ := hc.exists_step hn
  have hself : n'.identifier = .ofReference q.serviceGroup n.identifier.reference := by
    rw [← hid, ← hgroup, ← hservice, Identifier.ofReference_reference]
  have hparents' := hc'.parents n' hn' _ s ((hdeclares _ _).1 hs) hself
  have hchildren : n.children = n'.children := by
    refine Sorted.eq_of_mem_iff (hc.children_increasing n hn) (hc'.children_increasing n' hn') ?_
    intro j
    rw [hc.mem_children n hn, hc'.mem_children n' hn']
    simp only [hdeclares, hgroup, hid]
  rw [hgroup, ← hparents'] at hparents
  obtain ⟨i, children, parents⟩ := n
  obtain ⟨i', children', parents'⟩ := n'
  rw [Node.mk.injEq]
  exact ⟨hid, hchildren, hparents⟩

/-! ## Contributions -/

namespace Pipeline.Reordered
variable {p q : Pipeline} (h : p.Reordered q)
include h

theorem symm : q.Reordered p := by
  obtain ⟨l, hperm, hrelated⟩ := h.resourceGroups
  obtain ⟨l', hrelated', hperm'⟩ := List.perm_comp_forall₂ hperm hrelated
  refine ⟨h.serviceGroup.symm, l', hperm'.symm, .flip (hrelated'.imp ?_)⟩
  intro a b hab
  exact hab.symm

theorem flatMap_perm {β : Type} {f : ResourceGroup → List β}
    (hf : ∀ g g' : ResourceGroup, g.Reordered g' → (f g).Perm (f g')) :
    (p.resourceGroups.flatMap f).Perm (q.resourceGroups.flatMap f) := by
  obtain ⟨l, hperm, hrelated⟩ := h.resourceGroups
  exact (hperm.flatMap_right f).trans (flatMap_perm_of_forall₂ hrelated hf)

theorem names_perm :
    (p.resourceGroups.map ResourceGroup.name).Perm (q.resourceGroups.map ResourceGroup.name) := by
  rw [List.map_eq_flatMap, List.map_eq_flatMap]
  exact h.flatMap_perm fun g g' hg => .of_eq (by rw [hg.name_eq])

theorem requests_perm : p.requests.Perm q.requests := by
  rw [requests, requests, ← h.serviceGroup]
  exact h.flatMap_perm fun g g' hg => .of_eq (hg.requests_eq _)

theorem declares_iff (r : StepReference) (s : Step) : p.Declares r s ↔ q.Declares r s := by
  rw [← mem_declared, ← mem_declared]
  exact (h.flatMap_perm fun g g' hg => hg.declared_perm).mem_iff

theorem coherent (hp : p.Coherent) : q.Coherent := by
  obtain ⟨l, hperm, hrelated⟩ := h.resourceGroups
  constructor
  case distinct_groups => exact h.names_perm.nodup_iff.1 hp.distinct_groups
  case distinct_steps =>
    refine forall_mem_of_forall₂ hrelated ?_ fun g hg => hp.distinct_steps g (hperm.mem_iff.2 hg)
    intro g g' hg hsteps
    exact (hg.steps.map Step.name).nodup_iff.1 hsteps
  case one_request => exact h.requests_perm.length_eq ▸ hp.one_request
  case declared =>
    rintro ⟨g, s⟩ hd r hr
    obtain ⟨g', hd', -⟩ := (h.declares_iff _ s).2 ⟨g, hd, rfl⟩
    obtain ⟨t, ht⟩ := mem_references.1 (hp.declared _ hd' r hr)
    exact mem_references.2 ⟨t, (h.declares_iff r t).1 ht⟩

/-- Reordered pipelines contribute the same. -/
theorem contribution_eq_ok {c : Contribution} (hc : p.contribution = .ok c) :
    q.contribution = .ok c := by
  have hp := p.contributes_iff.1 ⟨c, hc⟩
  obtain ⟨c', hc'⟩ := q.contributes_iff.2 (h.coherent hp)
  have hinventory : c.inventory = c'.inventory := by
    obtain ⟨l, hperm, hrelated⟩ := h.resourceGroups
    rw [inventory_eq hc, inventory_eq hc', ← h.serviceGroup,
      Inventory.ofGroups_eq_of_perm hperm hp.distinct_groups hp.one_request,
      Inventory.ofGroups_eq_of_forall₂ hrelated fun g hg =>
        hp.distinct_steps g (hperm.mem_iff.2 hg)]
  -- The identifiers come from the inventory. The edges are listed in the order of the declarations, so
  -- the nodes are compared by their neighbours.
  obtain ⟨-, -, hnodes⟩ := contribution_spec hc
  obtain ⟨-, -, hnodes'⟩ := contribution_spec hc'
  have hpresents := presents_of_contribution hc
  have hpresents' := presents_of_contribution hc'
  have heq : c.nodes = c'.nodes := by
    rw [hnodes, hnodes', ← hinventory, ← h.serviceGroup]
    refine List.map_congr_left fun i hi => ?_
    refine hpresents.node_eq hpresents' h.serviceGroup h.declares_iff ?_ ?_ rfl
    · rw [hnodes]
      exact List.mem_map_of_mem hi
    · rw [hnodes', ← hinventory, ← h.serviceGroup]
      exact List.mem_map_of_mem hi
  obtain ⟨inventory, nodes⟩ := c
  obtain ⟨inventory', nodes'⟩ := c'
  obtain rfl : inventory = inventory' := hinventory
  obtain rfl : nodes = nodes' := heq
  exact hc'

end Pipeline.Reordered

namespace Pipelines.Reordered
variable {pipelines pipelines' : Pipelines}

theorem symm (h : pipelines.Reordered pipelines') : pipelines'.Reordered pipelines :=
  fun group => rel_symm (fun _ _ hpq => hpq.symm) (h group)

/-- Maps with the same keys in which one pipeline after the other is reordered. -/
theorem of_forall₂ (h : List.Forall₂ (fun e e' => e.1 = e'.1 ∧ e.2.Reordered e'.2)
    pipelines.entries pipelines'.entries) : pipelines.Reordered pipelines' := by
  intro group
  rw [SortedMap.lookup_eq_lookup_entries, SortedMap.lookup_eq_lookup_entries]
  generalize pipelines.entries = l, pipelines'.entries = l' at h
  induction h with
  | nil => exact .none
  | @cons e e' _ _ he _ ih =>
    obtain ⟨k, p⟩ := e
    obtain ⟨k', q⟩ := e'
    obtain ⟨rfl, hpq⟩ := he
    rw [List.lookup_cons, List.lookup_cons]
    cases group == k with
    | false => exact ih
    | true => exact .some hpq

/-- What the pipeline of a service contributes is contributed by the reordered one. -/
theorem contributes (h : pipelines.Reordered pipelines') {group : String} {c : Contribution}
    (hc : contributionOf pipelines group = .ok c) : contributionOf pipelines' group = .ok c := by
  obtain ⟨p, hp, hgroup, hcontribution⟩ := contributionOf_eq_ok.1 hc
  have hrelated := h group
  rw [hp] at hrelated
  obtain ⟨q, hq, hpq⟩ := exists_of_rel_some hrelated
  exact contributionOf_eq_ok.2
    ⟨q, hq, hpq.serviceGroup.symm.trans hgroup, hpq.contribution_eq_ok hcontribution⟩

end Pipelines.Reordered

end RolloutPlan
