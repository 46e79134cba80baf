import RolloutPlan.Graph.Contribution
import RolloutPlan.Proofs.Dependency

/-!
# The nodes of one pipeline

What a pipeline contributes to a graph, read off its declarations.

* `Inventory.entries`: the steps of an inventory by reference. `Inventory.Registers` says that they
  are the declared steps of some resource groups, each registered once.
* `Edge.between`: an edge for every dependency of every step.
* `Contribution.Presents`: the nodes of a contribution are the declared steps in increasing order, the
  parents of each are its dependencies, and its children are the steps that depend on it.
* `Pipeline.presents_of_contribution`: what `Pipeline.contribution` returns presents the pipeline.
  `Pipeline.nodes_of_contribution` says it with the identifiers of the declared steps.
-/

namespace RolloutPlan

set_option autoImplicit false

/-! ## General facts -/

/-- A computation returns when its first part returns and the rest returns from there. -/
theorem bind_eq_ok {ε α β : Type} {x : Except ε α} {f : α → Except ε β} {b : β} :
    (x >>= f) = .ok b ↔ ∃ a, x = .ok a ∧ f a = .ok b := by
  cases x with
  | error e => simp [bind, Except.bind]
  | ok a => simp [bind, Except.bind]

theorem map_eq_ok {ε α β : Type} {x : Except ε α} {f : α → β} {b : β} :
    x.map f = .ok b ↔ ∃ a, x = .ok a ∧ f a = b := by
  cases x <;> simp [Except.map]

theorem throw_bind_ne_ok {ε α β : Type} {e : ε} {f : α → Except ε β} {b : β} :
    ((throw e : Except ε α) >>= f) ≠ .ok b := nofun

namespace Inventory

/-! ## What an inventory registers -/

/-- The registered steps by reference. -/
def entries (d : Inventory) : List (StepReference × Step) :=
  d.steps.flatMap fun (group, steps) => steps.map fun (name, s) => (⟨group, name⟩, s)

/-- The steps of a resource group by reference. -/
def declared (g : ResourceGroup) : List (StepReference × Step) :=
  g.steps.map fun s => (⟨g.name, s.name⟩, s)

/-- An inventory has the steps of some resource groups, and nothing is declared twice. -/
structure Registers (d : Inventory) (l : List ResourceGroup) : Prop where
  /-- The groups with targets are the groups with steps. -/
  groups : ∀ name, name ∈ d.resourceGroups.keys ↔ name ∈ d.steps.groups.keys
  entries_perm : d.entries.Perm (l.flatMap declared)

theorem registers_empty : Registers {} [] where
  groups _ := Iff.rfl
  entries_perm := .refl _

theorem addSteps_perm {group name : String} : ∀ {l : List Step} {known m : SortedMap String Step},
    addSteps group name known l = .ok m →
      m.entries.Perm (l.map (fun s => (s.name, s)) ++ known.entries)
  | [], known, m, h => by
    obtain rfl : known = m := by simpa [addSteps] using h
    exact .refl _
  | s :: l, known, m, h => by
    rw [addSteps] at h
    split_ifs at h with hs
    rw [SortedMap.isSome_lookup_iff] at hs
    refine (addSteps_perm h).trans ?_
    exact ((Sorted.put_perm hs).append_left _).trans List.perm_middle

theorem addGroup_registers {group : String} {d d' : Inventory} {g : ResourceGroup}
    {l : List ResourceGroup} (h : addGroup group d g = .ok d') (hd : d.Registers l) :
    d'.Registers (l ++ [g]) := by
  unfold addGroup at h
  split_ifs at h with hg
  · exact absurd h throw_bind_ne_ok
  · simp only [bind_eq_ok] at h
    obtain ⟨subscription, _, m, hm, h⟩ := h
    obtain rfl := Except.ok.inj h
    rw [SortedMap.isSome_lookup_iff, hd.groups] at hg
    constructor
    · intro name
      simp only [Sorted.mem_keys_put, hd.groups]
    · refine ((Sorted.put_perm (v := m) hg).flatMap_right _).trans ?_
      have hnew := (addSteps_perm hm).map
        fun e : String × Step => ((⟨g.name, e.1⟩ : StepReference), e.2)
      rw [SortedMap.entries_empty, List.append_nil, List.map_map] at hnew
      rw [List.flatMap_cons, List.flatMap_append, List.flatMap_singleton]
      exact (hnew.append hd.entries_perm).trans List.perm_append_comm

theorem addGroups_registers {group : String} : ∀ {l : List ResourceGroup} {d d' : Inventory}
    {known : List ResourceGroup}, addGroups group d l = .ok d' → d.Registers known →
      d'.Registers (known ++ l)
  | [], d, d', known, h, hd => by
    obtain rfl := Except.ok.inj h
    rwa [List.append_nil]
  | g :: l, d, d', known, h, hd => by
    rw [addGroups, bind_eq_ok] at h
    obtain ⟨d₁, hg, h⟩ := h
    rw [List.append_cons]
    exact addGroups_registers h (addGroup_registers hg hd)

/-! ## Looking up in an inventory -/

/-- The registered step under a reference. -/
def find? (d : Inventory) (r : StepReference) : Option Step := d.steps.find? r

theorem contains_eq (d : Inventory) (r : StepReference) : d.contains r = (d.find? r).isSome := rfl

theorem mem_entries {d : Inventory} {r : StepReference} {s : Step} :
    (r, s) ∈ d.entries ↔ ∃ m, (r.resourceGroup, m) ∈ d.steps.groups ∧ (r.step, s) ∈ m := by
  unfold entries StepRegistry.flatMap SortedMap.flatMap
  simp only [List.mem_flatMap, List.mem_map, Prod.exists, Prod.mk.injEq]
  constructor
  · rintro ⟨group, m, hm, name, _, hs, rfl, rfl⟩
    exact ⟨m, hm, hs⟩
  · rintro ⟨m, hm, hs⟩
    exact ⟨_, m, hm, _, s, hs, rfl, rfl⟩

theorem find?_eq_some_iff {d : Inventory} {r : StepReference} {s : Step} :
    d.find? r = some s ↔ (r, s) ∈ d.entries := by
  rw [mem_entries]
  simp only [find?, StepRegistry.find?, Option.bind_eq_bind, Option.bind_eq_some_iff,
    SortedMap.lookup_eq_some_iff]

theorem identifiers_eq (group : String) (d : Inventory) :
    d.identifiers group = (d.entries.map Prod.fst).map (.ofReference group) := by
  unfold identifiers entries StepRegistry.flatMap SortedMap.flatMap
  simp only [List.map_flatMap, List.map_map, Function.comp_def]
  rfl

theorem pairwise_entries (d : Inventory) : (d.entries.map Prod.fst).Pairwise (· < ·) := by
  unfold entries StepRegistry.flatMap SortedMap.flatMap
  rw [List.map_flatMap, List.pairwise_flatMap]
  constructor
  · intro e he
    rw [List.map_map, List.pairwise_map]
    apply (List.pairwise_map.1 e.2.increasing).imp
    intro a b h
    exact StepReference.lt_iff.2 (.inr ⟨rfl, h⟩)
  · apply (List.pairwise_map.1 d.steps.groups.increasing).imp
    intro e e' h a ha b hb
    simp only [List.map_map, List.mem_map, Function.comp_apply] at ha hb
    obtain ⟨x, _, rfl⟩ := ha
    obtain ⟨y, _, rfl⟩ := hb
    exact StepReference.lt_iff.2 (.inl h)

end Inventory

namespace Edge

/-! ## The edges of a pipeline -/

/-- An edge for every dependency of every step, in the order of their declarations. -/
def between (group : String) (l : List (ResourceGroup × Step)) : List Edge :=
  l.flatMap fun d => d.2.dependencySet.map fun r =>
    ⟨.ofReference group r, .ofReference group (Pipeline.referenceOf d)⟩

theorem toStep_spec {group : String} {d : Inventory} {step : StepReference} :
    ∀ {l : List StepReference} {edges : List Edge}, toStep group d step l = .ok edges →
      edges = l.map (fun r => ⟨.ofReference group r, .ofReference group step⟩) ∧
        ∀ r ∈ l, d.contains r
  | [], edges, h => by
    obtain rfl := Except.ok.inj h
    simp
  | r :: l, edges, h => by
    rw [toStep] at h
    split_ifs at h with hr
    rw [bind_eq_ok] at h
    obtain ⟨rest, hrest, h⟩ := h
    obtain rfl := Except.ok.inj h
    obtain ⟨rfl, hl⟩ := toStep_spec hrest
    exact ⟨rfl, List.forall_mem_cons.2 ⟨hr, hl⟩⟩

theorem toSteps_spec {group : String} {d : Inventory} :
    ∀ {l : List (ResourceGroup × Step)} {edges : List Edge}, toSteps group d l = .ok edges →
      edges = between group l ∧ ∀ e ∈ l, ∀ r ∈ e.2.dependencySet, d.contains r
  | [], edges, h => by
    obtain rfl := Except.ok.inj h
    exact ⟨rfl, by simp⟩
  | (g, s) :: l, edges, h => by
    rw [toSteps] at h
    simp only [bind_eq_ok] at h
    obtain ⟨first, hfirst, rest, hrest, h⟩ := h
    obtain rfl := Except.ok.inj h
    obtain ⟨rfl, hs⟩ := toStep_spec hfirst
    obtain ⟨rfl, hl⟩ := toSteps_spec hrest
    exact ⟨rfl, List.forall_mem_cons.2 ⟨hs, hl⟩⟩

theorem mem_between {group : String} {l : List (ResourceGroup × Step)} {e : Edge} :
    e ∈ between group l ↔ ∃ d ∈ l, ∃ r ∈ d.2.dependencySet,
      e = ⟨.ofReference group r, .ofReference group (Pipeline.referenceOf d)⟩ := by
  unfold between
  simp only [List.mem_flatMap, List.mem_map, eq_comm]

theorem nodup_between {group : String} {l : List (ResourceGroup × Step)}
    (h : (l.map Pipeline.referenceOf).Nodup) : (between group l).Nodup := by
  unfold between
  rw [List.nodup_flatMap]
  constructor
  · intro d _
    apply d.2.nodup_dependencySet.map
    intro a b hab
    exact Identifier.ofReference_injective group (congrArg Edge.before hab)
  · apply (List.pairwise_map.1 h).imp
    intro d d' hne e he he'
    obtain ⟨r, _, rfl⟩ := List.mem_map.1 he
    obtain ⟨r', _, h⟩ := List.mem_map.1 he'
    exact hne (Identifier.ofReference_injective group (congrArg Edge.after h)).symm

theorem filter_after_between {group : String} {l : List (ResourceGroup × Step)}
    (h : (l.map Pipeline.referenceOf).Nodup) {d : ResourceGroup × Step} (hd : d ∈ l) :
    ((between group l).filter (·.after = .ofReference group (Pipeline.referenceOf d))).map
      Edge.before = d.2.dependencySet.map (.ofReference group) := by
  have hone : ∀ e : ResourceGroup × Step,
      (e.2.dependencySet.map fun r => (⟨.ofReference group r,
        .ofReference group (Pipeline.referenceOf e)⟩ : Edge)).filter
          (·.after = .ofReference group (Pipeline.referenceOf d)) =
      if Pipeline.referenceOf e = Pipeline.referenceOf d then
        e.2.dependencySet.map fun r => ⟨.ofReference group r,
          .ofReference group (Pipeline.referenceOf e)⟩ else [] := by
    intro e
    by_cases he : Pipeline.referenceOf e = Pipeline.referenceOf d
    · simp [he]
    · have hne : Identifier.ofReference group (Pipeline.referenceOf e) ≠
          .ofReference group (Pipeline.referenceOf d) :=
        fun h => he (Identifier.ofReference_injective group h)
      simp [he, hne]
  unfold between
  rw [List.filter_flatMap]
  simp only [hone]
  rw [flatMap_ite_eq h hd, List.map_map]
  rfl

theorem mem_children_node {group : String} {l : List (ResourceGroup × Step)} {i j : Identifier} :
    j ∈ (node (between group l) i).children ↔ ∃ d ∈ l,
      j = .ofReference group (Pipeline.referenceOf d) ∧
        i ∈ d.2.dependencySet.map (.ofReference group) := by
  unfold node
  rw [(Sorted.sort_perm _).mem_iff]
  simp only [List.mem_map, List.mem_filter, decide_eq_true_eq]
  constructor
  · rintro ⟨e, ⟨he, rfl⟩, rfl⟩
    obtain ⟨d, hd, r, hr, rfl⟩ := mem_between.1 he
    exact ⟨d, hd, rfl, r, hr, rfl⟩
  · rintro ⟨d, hd, rfl, r, hr, rfl⟩
    exact ⟨_, ⟨mem_between.2 ⟨d, hd, r, hr, rfl⟩, rfl⟩, rfl⟩

theorem pairwise_children_node {group : String} {l : List (ResourceGroup × Step)}
    (h : (l.map Pipeline.referenceOf).Nodup) (i : Identifier) :
    (node (between group l) i).children.Pairwise (· < ·) := by
  refine Sorted.pairwise_sort (List.Nodup.map_on ?_ ((nodup_between h).filter _))
  intro e he e' he' hafter
  have hbefore := (List.mem_filter.1 he).2
  have hbefore' := (List.mem_filter.1 he').2
  simp only [decide_eq_true_eq] at hbefore hbefore'
  obtain ⟨b, a⟩ := e
  obtain ⟨b', a'⟩ := e'
  simp_all

end Edge

/-! ## The contribution -/

/-- The nodes of a contribution are the steps of a pipeline with their dependencies. -/
structure Contribution.Presents (c : Contribution) (p : Pipeline) : Prop where
  references_nodup : p.references.Nodup
  /-- Dependencies are declared. -/
  dependency_mem : ∀ r s, p.Declares r s → ∀ b ∈ s.dependencySet, b ∈ p.references
  find?_eq_some_iff : ∀ r s, c.inventory.find? r = some s ↔ p.Declares r s
  identifiers_increasing : (c.nodes.map Node.identifier).Pairwise (· < ·)
  identifiers_perm :
    (c.nodes.map Node.identifier).Perm (p.references.map (.ofReference p.serviceGroup))
  parents : ∀ n ∈ c.nodes, ∀ r s, p.Declares r s → n.identifier = .ofReference p.serviceGroup r →
    n.parents = s.dependencySet.map (.ofReference p.serviceGroup)
  children_increasing : ∀ n ∈ c.nodes, n.children.Pairwise (· < ·)
  mem_children : ∀ n ∈ c.nodes, ∀ j, j ∈ n.children ↔ ∃ r s, p.Declares r s ∧
    j = .ofReference p.serviceGroup r ∧ n.identifier ∈ s.dependencySet.map (.ofReference p.serviceGroup)

namespace Pipeline

theorem flatMap_declared (p : Pipeline) :
    p.resourceGroups.flatMap Inventory.declared = p.declaredSteps.map fun d => (referenceOf d, d.2) := by
  unfold declaredSteps Inventory.declared referenceOf
  simp only [List.map_flatMap, List.map_map, Function.comp_def]

theorem mem_declared {p : Pipeline} {r : StepReference} {s : Step} :
    (r, s) ∈ p.resourceGroups.flatMap Inventory.declared ↔ p.Declares r s := by
  rw [flatMap_declared, List.mem_map]
  unfold Declares
  constructor
  · rintro ⟨⟨g, _⟩, hg, h⟩
    obtain ⟨rfl, rfl⟩ := Prod.mk.inj h
    exact ⟨g, hg, rfl⟩
  · rintro ⟨g, hg, rfl⟩
    exact ⟨(g, s), hg, rfl⟩

section
variable {p : Pipeline} {d : Inventory} (hd : d.Registers p.resourceGroups)
include hd

theorem declares_iff_find? {r : StepReference} {s : Step} :
    d.find? r = some s ↔ p.Declares r s := by
  rw [Inventory.find?_eq_some_iff, hd.entries_perm.mem_iff, mem_declared]

theorem references_perm : (d.entries.map Prod.fst).Perm p.references := by
  have hperm := hd.entries_perm.map Prod.fst
  rwa [flatMap_declared, List.map_map] at hperm

theorem references_nodup : p.references.Nodup :=
  (references_perm hd).nodup_iff.1 (Sorted.nodup_of_pairwise d.pairwise_entries)

end

/-- What a pipeline contributes when it contributes. -/
theorem contribution_spec {p : Pipeline} {c : Contribution} (h : p.contribution = .ok c) :
    c.inventory.Registers p.resourceGroups ∧
      (∀ e ∈ p.declaredSteps, ∀ r ∈ e.2.dependencySet, c.inventory.contains r) ∧
      c.nodes = (c.inventory.identifiers p.serviceGroup).map
        (Edge.node (Edge.between p.serviceGroup p.declaredSteps)) := by
  unfold contribution at h
  simp only [bind_eq_ok] at h
  obtain ⟨d, hd, edges, hedges, h⟩ := h
  obtain rfl := Except.ok.inj h
  obtain ⟨rfl, hknown⟩ := Edge.toSteps_spec hedges
  exact ⟨Inventory.addGroups_registers hd Inventory.registers_empty, hknown, rfl⟩

/-- What a pipeline contributes presents it. -/
theorem presents_of_contribution {p : Pipeline} {c : Contribution} (h : p.contribution = .ok c) :
    c.Presents p := by
  obtain ⟨hd, hknown, hnodes⟩ := contribution_spec h
  have hnodup := references_nodup hd
  have hids : c.nodes.map Node.identifier =
      (c.inventory.entries.map Prod.fst).map (.ofReference p.serviceGroup) := by
    rw [hnodes, ← Inventory.identifiers_eq, List.map_map]
    exact List.map_id _
  constructor
  case references_nodup => exact hnodup
  case dependency_mem =>
    rintro r s ⟨g, hg, rfl⟩ b hb
    have hb := hknown _ hg b hb
    rw [Inventory.contains_eq, Option.isSome_iff_exists] at hb
    obtain ⟨t, ht⟩ := hb
    exact mem_references.2 ⟨t, (declares_iff_find? hd).1 ht⟩
  case find?_eq_some_iff =>
    intro r s
    exact declares_iff_find? hd
  case identifiers_increasing =>
    rw [hids, List.pairwise_map]
    exact c.inventory.pairwise_entries.imp Identifier.ofReference_lt_ofReference.2
  case identifiers_perm =>
    rw [hids]
    exact (references_perm hd).map _
  case parents =>
    rw [hnodes]
    rintro n hn r s ⟨g, hg, rfl⟩ hr
    obtain ⟨i, _, rfl⟩ := List.mem_map.1 hn
    obtain rfl : i = _ := hr
    exact Edge.filter_after_between hnodup hg
  case children_increasing =>
    rw [hnodes]
    intro n hn
    obtain ⟨i, _, rfl⟩ := List.mem_map.1 hn
    exact Edge.pairwise_children_node hnodup i
  case mem_children =>
    rw [hnodes]
    intro n hn j
    obtain ⟨i, _, rfl⟩ := List.mem_map.1 hn
    rw [Edge.mem_children_node]
    constructor
    · rintro ⟨⟨g, s⟩, hg, rfl, hi⟩
      exact ⟨_, s, ⟨g, hg, rfl⟩, rfl, hi⟩
    · rintro ⟨r, s, ⟨g, hg, rfl⟩, rfl, hi⟩
      exact ⟨(g, s), hg, rfl, hi⟩

/-! ## The nodes by the declared steps -/

/-- The identifier of a declared step. -/
def identifierOf (p : Pipeline) (d : ResourceGroup × Step) : Identifier :=
  .ofReference p.serviceGroup (referenceOf d)

/-- A contribution has one node for each declared step. The parents of a node are the dependencies of
its step, and its children are the steps that depend on it. -/
theorem nodes_of_contribution {p : Pipeline} {c : Contribution} (h : p.contribution = .ok c) :
    (c.nodes.map Node.identifier).Pairwise (· < ·) ∧
    (c.nodes.map Node.identifier).Perm (p.declaredSteps.map p.identifierOf) ∧
    (∀ n ∈ c.nodes, ∀ d ∈ p.declaredSteps, n.identifier = p.identifierOf d →
      n.parents = d.2.dependencySet.map (.ofReference p.serviceGroup)) ∧
    (∀ n ∈ c.nodes, n.children.Pairwise (· < ·) ∧ ∀ j, j ∈ n.children ↔
      ∃ d ∈ p.declaredSteps, p.identifierOf d = j ∧
        n.identifier ∈ d.2.dependencySet.map (.ofReference p.serviceGroup)) ∧
    ∀ s : Step,
      (s.dependencySet.Pairwise fun a b => a.resourceGroup < b.resourceGroup ∨
        a.resourceGroup = b.resourceGroup ∧ a.step < b.step) ∧
      ∀ r, r ∈ s.dependencySet ↔ r ∈ s.header.dependsOn ∨ r ∈ s.requiredInputs := by
  have hpresents := presents_of_contribution h
  refine ⟨hpresents.identifiers_increasing, ?_, ?_, fun n hn => ?_, fun s => ?_⟩
  · have hperm := hpresents.identifiers_perm
    rwa [references, List.map_map] at hperm
  · rintro n hn ⟨g, s⟩ hd hn'
    exact hpresents.parents n hn _ s ⟨g, hd, rfl⟩ hn'
  · refine ⟨hpresents.children_increasing n hn, fun j => ?_⟩
    rw [hpresents.mem_children n hn]
    constructor
    · rintro ⟨_, s, ⟨g, hd, rfl⟩, rfl, hmem⟩
      exact ⟨(g, s), hd, rfl, hmem⟩
    · rintro ⟨⟨g, s⟩, hd, rfl, hmem⟩
      exact ⟨_, s, ⟨g, hd, rfl⟩, rfl, hmem⟩
  · exact ⟨s.pairwise_dependencySet.imp StepReference.lt_iff.1, fun r => s.mem_dependencySet⟩

namespace RepeatedDependencies

/-- A step that waits for itself, and for another one that it names twice and reads from. -/
def peer : Step where
  header := { name := "peer", dependsOn := [⟨"rg", "peer"⟩, ⟨"rg", "create"⟩, ⟨"rg", "create"⟩] }
  body := .setCertificateIssuer { issuer := { input := some ⟨"id", ⟨"rg", "create"⟩⟩ } }

def group : ResourceGroup where
  target := ⟨"rg", "rg", "main", []⟩
  steps := [peer, ⟨{ name := "create" }, .logs {}⟩]

def pipeline : Pipeline := { serviceGroup := "network", resourceGroups := [group] }

theorem exists_contribution : ∃ c, pipeline.contribution = .ok c := ⟨_, rfl⟩

end RepeatedDependencies

theorem nodes_with_repeated_dependencies :
    ∃ c, RepeatedDependencies.pipeline.contribution = .ok c ∧
      (c.nodes.map Node.identifier).Perm
        [⟨"network", "rg", "peer"⟩, ⟨"network", "rg", "create"⟩] ∧
      ∀ n ∈ c.nodes, n.identifier = ⟨"network", "rg", "peer"⟩ →
        n.parents = [⟨"network", "rg", "create"⟩, ⟨"network", "rg", "peer"⟩] := by
  obtain ⟨c, hc⟩ := RepeatedDependencies.exists_contribution
  obtain ⟨-, hperm, hparents, -⟩ := nodes_of_contribution hc
  refine ⟨c, hc, hperm, fun n hn hpeer => ?_⟩
  have hdeclared : (RepeatedDependencies.group, RepeatedDependencies.peer) ∈
      RepeatedDependencies.pipeline.declaredSteps := List.mem_cons_self
  rw [hparents n hn _ hdeclared hpeer]
  decide

end Pipeline

end RolloutPlan
