import RolloutPlan.Proofs.Inventory
import RolloutPlan.Proofs.RolloutObjections

/-!
# What a graph keeps of its services

Beside its nodes, a graph under construction keeps the services, the definitions of their steps and their
validation steps. All of this is read off the list of the services so far: recording a service adds to
it, and linking leaves it alone.

* `inventoryOf`: what the pipeline of a service declares.
* `Graph.Keeps`: a graph keeps what some services declare. `Keeps.record`, `Keeps.withNodes`: the two
  kinds of steps that an assembly takes.
* `keeps_addService`, `keeps_addEntrypoints`: a sub-tree, and all sub-trees that are selected.
* `Keeps.restrict`: the part of the books that belongs to some of the services. `Keeps.services_perm`:
  the services themselves.
-/

namespace RolloutPlan

set_option autoImplicit false

/-! ## Inventories -/

/-- What the pipeline of a service declares. -/
def inventoryOf (pipelines : Pipelines) (group : String) : Inventory :=
  match contributionOf pipelines group with
  | .ok c => c.inventory
  | .error _ => {}

theorem inventoryOf_eq {pipelines : Pipelines} {group : String} {c : Contribution}
    (h : contributionOf pipelines group = .ok c) : inventoryOf pipelines group = c.inventory := by
  rw [inventoryOf, h]

theorem inventoryOf_congr {pipelines pipelines' : Pipelines} {group : String}
    (h : pipelines.lookup group = pipelines'.lookup group) :
    inventoryOf pipelines group = inventoryOf pipelines' group := by
  rw [inventoryOf, inventoryOf, contributionOf_congr h]

/-- The validation steps of a service carry its service group. -/
theorem serviceGroup_of_mem_inventoryOf (pipelines : Pipelines) (group : String) :
    ∀ e ∈ (inventoryOf pipelines group).validationSteps.entries, e.1.serviceGroup = group := by
  cases h : contributionOf pipelines group with
  | error e =>
    rw [inventoryOf, h]
    simp
  | ok c =>
    obtain ⟨p, _, rfl, hc⟩ := contributionOf_eq_ok.1 h
    rw [inventoryOf_eq h, p.inventory_eq hc]
    intro e he
    obtain ⟨e', he', hkey⟩ := List.mem_map.1 (Sorted.mem_keys_ofPairs.1 (List.mem_map_of_mem he))
    rw [← hkey]
    exact p.serviceGroup_of_mem_validations he'

/-! ## The books -/

/-- A graph keeps some services, the definitions of their steps, and their validation steps. -/
structure Graph.Keeps (pipelines : Pipelines) (l : List Service) (g : Graph) : Prop where
  services : g.services = Sorted.ofPairs (l.flatMap fun s => [(s.serviceGroup, s)])
  steps : g.steps = Sorted.ofPairs
    (l.flatMap fun s => [(s.serviceGroup, (inventoryOf pipelines s.serviceGroup).steps)])
  validationSteps : g.validationSteps = Sorted.ofPairs
    (l.flatMap fun s => (inventoryOf pipelines s.serviceGroup).validationSteps.entries)

namespace Assembly

/-! ### Changing nodes only -/

theorem modify_frame {a a' : Assembly} {i : Identifier} {f : Node → Node}
    (h : a.modify i f = .ok a') : ∃ nodes, a' = a.withNodes nodes := by
  unfold modify at h
  split at h
  · exact ⟨_, (Except.ok.inj h).symm⟩
  · cases h

theorem modifyAll_frame {f : Node → Node} : ∀ {l : List Identifier} {a a' : Assembly},
    modifyAll f a l = .ok a' → ∃ nodes, a' = a.withNodes nodes
  | [], a, _, h => ⟨a.graph.nodes, (Except.ok.inj h).symm⟩
  | i :: l, a, a', h => by
    rw [modifyAll, bind_eq_ok] at h
    obtain ⟨a₁, h₁, h⟩ := h
    obtain ⟨_, rfl⟩ := modify_frame h₁
    obtain ⟨nodes, rfl⟩ := modifyAll_frame h
    exact ⟨nodes, rfl⟩

theorem link_frame {a a' : Assembly} {leaves roots : List Identifier}
    (h : a.link leaves roots = .ok a') : ∃ nodes, a' = a.withNodes nodes := by
  unfold link at h
  split_ifs at h
  · exact ⟨a.graph.nodes, (Except.ok.inj h).symm⟩
  · rw [bind_eq_ok] at h
    obtain ⟨a₁, h₁, h⟩ := h
    obtain ⟨_, rfl⟩ := modifyAll_frame h₁
    obtain ⟨nodes, rfl⟩ := modifyAll_frame h
    exact ⟨nodes, rfl⟩

theorem foldl_push_frame : ∀ (l : List Node) (a : Assembly),
    ∃ nodes, (l.foldl push a).graph = { a.graph with nodes }
  | [], a => ⟨a.graph.nodes, rfl⟩
  | n :: l, a => by
    obtain ⟨nodes, h⟩ := foldl_push_frame l (a.push n)
    exact ⟨nodes, h⟩

end Assembly

namespace Graph.Keeps
variable {pipelines : Pipelines} {l : List Service} {a a' : Assembly}

/-! ### Steps -/

theorem empty (pipelines : Pipelines) : Keeps pipelines [] {} := ⟨rfl, rfl, rfl⟩

theorem withNodes (h : Keeps pipelines l a.graph) (nodes : List Node) :
    Keeps pipelines l (a.withNodes nodes).graph :=
  ⟨h.services, h.steps, h.validationSteps⟩

/-- Recording a service adds what it declares. -/
theorem record {s : Service} (h : Keeps pipelines l a.graph) (ha : a.record pipelines s = .ok a') :
    Keeps pipelines (l ++ [s]) a'.graph := by
  obtain ⟨b, _, hb, rfl⟩ := Assembly.record_eq_ok.1 ha
  obtain ⟨_, c, hc, rfl, -, -, hservices, hsteps, hvalidation⟩ := Assembly.book_spec hb
  obtain ⟨nodes, hgraph⟩ := Assembly.foldl_push_frame c.nodes b
  rw [hgraph]
  constructor
  · rw [List.flatMap_append, List.flatMap_singleton, Sorted.ofPairs_concat, ← h.services]
    exact hservices
  · rw [List.flatMap_append, List.flatMap_singleton, Sorted.ofPairs_concat, ← h.steps,
      inventoryOf_eq hc]
    exact hsteps
  · rw [h.validationSteps] at hvalidation
    rw [List.flatMap_append, List.flatMap_singleton, inventoryOf_eq hc, Sorted.ofPairs,
      List.foldl_append]
    exact hvalidation

end Graph.Keeps

namespace Assembly
variable {pipelines : Pipelines}

/-! ### Runs -/

mutual
theorem keeps_addService {l : List Service} {a a' : Assembly} (h : a.graph.Keeps pipelines l) :
    ∀ {s : Service}, addService pipelines a s = .ok a' → a'.graph.Keeps pipelines (l ++ s.preorder)
  | ⟨group, purpose, path, children, metadata⟩, ha => by
    rw [addService, bind_eq_ok] at ha
    obtain ⟨a₁, h₁, ha⟩ := ha
    rw [Service.preorder, List.append_cons]
    exact keeps_addChildren (h.record h₁) ha
theorem keeps_addChildren {l : List Service} {a a' : Assembly} {leaves : List Identifier}
    (h : a.graph.Keeps pipelines l) : ∀ {children : List Service},
    addChildren pipelines leaves a children = .ok a' →
      a'.graph.Keeps pipelines (l ++ Service.preorderAll children)
  | [], ha => by
    obtain rfl := Except.ok.inj ha
    rwa [Service.preorderAll, List.append_nil]
  | s :: children, ha => by
    simp only [addChildren, bind_eq_ok] at ha
    obtain ⟨a₁, h₁, a₂, h₂, ha⟩ := ha
    obtain ⟨nodes, rfl⟩ := link_frame h₂
    rw [Service.preorderAll, ← List.append_assoc]
    exact keeps_addChildren ((keeps_addService h h₁).withNodes nodes) ha
end

theorem keeps_addEntrypoints {t : Topology} : ∀ {entrypoints : List Entrypoint} {l : List Service}
    {a a' : Assembly}, a.graph.Keeps pipelines l →
      addEntrypoints pipelines t a entrypoints = .ok a' →
        a'.graph.Keeps pipelines (l ++ t.selected entrypoints)
  | [], l, a, a', h, ha => by
    obtain rfl := Except.ok.inj ha
    simpa [Topology.selected] using h
  | e :: entrypoints, l, a, a', h, ha => by
    rw [addEntrypoints, Topology.lookup] at ha
    cases hs : t.lookup? e.identifier with
    | none =>
      rw [hs] at ha
      cases ha
    | some s =>
      simp only [hs, bind_eq_ok] at ha
      obtain ⟨a₁, h₁, ha⟩ := ha
      have hrest := keeps_addEntrypoints (keeps_addService h h₁) ha
      simpa [Topology.selected, hs, List.append_assoc] using hrest

theorem keeps_of_addEntrypoints {t : Topology} {entrypoints : List Entrypoint} {a : Assembly}
    (h : addEntrypoints pipelines t {} entrypoints = .ok a) :
    a.graph.Keeps pipelines (t.selected entrypoints) :=
  keeps_addEntrypoints (.empty pipelines) h

end Assembly

/-! ## Parts of the books -/

/-- The part of the books that belongs to some services is kept of these services. -/
theorem Graph.Keeps.restrict {pipelines : Pipelines} {l : List Service} {g : Graph}
    (h : g.Keeps pipelines l) (q : String → Bool) :
    Keeps pipelines (l.filter fun s => q s.serviceGroup) { g with
      services := g.services.filter fun e => q e.1
      steps := g.steps.filter fun e => q e.1
      validationSteps := g.validationSteps.filter fun e => q e.1.serviceGroup } := by
  have hone : ∀ {ν : Type} (f : Service → ν) (s : Service), ∀ e ∈ [(s.serviceGroup, f s)],
      e.1 = s.serviceGroup := by
    simp
  have hvalidation : ∀ s : Service, ∀ e ∈ (inventoryOf pipelines s.serviceGroup).validationSteps.entries,
      e.1.serviceGroup = s.serviceGroup := fun s =>
    serviceGroup_of_mem_inventoryOf pipelines s.serviceGroup
  constructor
  · simp only
    rw [h.services, Sorted.filter_ofPairs q, filter_flatMap_of_key (hone _)]
  · simp only
    rw [h.steps, Sorted.filter_ofPairs q, filter_flatMap_of_key (hone _)]
  · simp only
    rw [h.validationSteps, Sorted.filter_ofPairs fun i : Identifier => q i.serviceGroup,
      filter_flatMap_of_key hvalidation]

/-- The services that a graph keeps. -/
theorem Graph.Keeps.services_perm {pipelines : Pipelines} {l : List Service} {g : Graph}
    (h : g.Keeps pipelines l) (hdistinct : (l.map Service.serviceGroup).Nodup) :
    (g.services.map Prod.snd).Perm l := by
  have hservices : g.services = Sorted.ofPairs (l.map fun s => (s.serviceGroup, s)) := by
    rw [h.services, List.map_eq_flatMap]
  have hpairs := Sorted.ofPairs_perm (l := l.map fun s => (s.serviceGroup, s)) (by
    rw [List.map_map]
    exact hdistinct)
  have hsnd := hpairs.map Prod.snd
  rw [← hservices, List.map_map] at hsnd
  exact hsnd.trans (.of_eq (List.map_id l))

end RolloutPlan
