import RolloutPlan.Graph.Assembly
import RolloutPlan.Proofs.Contribution
import RolloutPlan.Proofs.Layout

/-!
# The blocks that pipelines contribute

The block of a service is read off the declarations of its pipeline.

* `Pipelines.Declares`: a step is declared in the pipeline of its service.
* `contributionOf`, `blockOf`: what the pipeline of a service contributes, and its nodes.
* `isBlock_blockOf`: the nodes of one pipeline have neighbours among themselves only.
* `Supplied`: the pipeline of a service contributes. Its block is then described by `mem_block_iff`,
  `parents_eq`, `isRoot_iff` and `isLeaf_iff`.
-/

namespace RolloutPlan

set_option autoImplicit false

/-- A step is declared in the pipeline of its service. -/
def Pipelines.Declares (pipelines : Pipelines) (i : Identifier) (s : Step) : Prop :=
  ∃ p, pipelines.lookup i.serviceGroup = some p ∧ p.Declares i.reference s

/-- What the pipeline of a service contributes. -/
def contributionOf (pipelines : Pipelines) (group : String) : Except GraphError Contribution := do
  let p ← Assembly.pipelineOf pipelines group
  p.contribution

/-- The nodes that the pipeline of a service contributes. -/
def blockOf (pipelines : Pipelines) (group : String) : List Node :=
  match contributionOf pipelines group with
  | .ok c => c.nodes
  | .error _ => []

/-- The pipeline of a service contributes. -/
def Supplied (pipelines : Pipelines) (group : String) : Prop :=
  ∃ c, contributionOf pipelines group = .ok c

theorem pipelineOf_eq_ok {pipelines : Pipelines} {group : String} {p : Pipeline} :
    Assembly.pipelineOf pipelines group = .ok p ↔
      pipelines.lookup group = some p ∧ p.serviceGroup = group := by
  unfold Assembly.pipelineOf
  cases pipelines.lookup group with
  | none => simp
  | some q =>
    simp only [Option.some.injEq]
    split_ifs with hq
    · constructor
      · intro h
        obtain rfl := Except.ok.inj h
        exact ⟨rfl, hq⟩
      · rintro ⟨rfl, _⟩
        rfl
    · constructor
      · intro h
        cases h
      · rintro ⟨rfl, h⟩
        exact absurd h hq

theorem contributionOf_eq_ok {pipelines : Pipelines} {group : String} {c : Contribution} :
    contributionOf pipelines group = .ok c ↔
      ∃ p, pipelines.lookup group = some p ∧ p.serviceGroup = group ∧ p.contribution = .ok c := by
  unfold contributionOf
  simp only [bind_eq_ok, pipelineOf_eq_ok, and_assoc]

theorem blockOf_eq {pipelines : Pipelines} {group : String} {c : Contribution}
    (h : contributionOf pipelines group = .ok c) : blockOf pipelines group = c.nodes := by
  rw [blockOf, h]

/-- Only the pipeline of the service itself counts. -/
theorem contributionOf_congr {pipelines pipelines' : Pipelines} {group : String}
    (h : pipelines.lookup group = pipelines'.lookup group) :
    contributionOf pipelines group = contributionOf pipelines' group := by
  unfold contributionOf Assembly.pipelineOf
  rw [h]

theorem blockOf_congr {pipelines pipelines' : Pipelines} {group : String}
    (h : pipelines.lookup group = pipelines'.lookup group) :
    blockOf pipelines group = blockOf pipelines' group := by
  rw [blockOf, blockOf, contributionOf_congr h]

/-- The inventory of a service finds the steps that its pipeline declares. -/
theorem find?_eq_some_iff_declares {pipelines : Pipelines} {i : Identifier} {c : Contribution}
    (h : contributionOf pipelines i.serviceGroup = .ok c) {s : Step} :
    c.inventory.find? i.reference = some s ↔ Pipelines.Declares pipelines i s := by
  obtain ⟨p, hp, _, hc⟩ := contributionOf_eq_ok.1 h
  rw [(Pipeline.presents_of_contribution hc).find?_eq_some_iff, Pipelines.Declares, hp]
  simp only [Option.some.injEq, exists_eq_left']

/-! ## A contribution is a block -/

namespace Contribution.Presents
variable {c : Contribution} {p : Pipeline} (h : c.Presents p)
include h

theorem mem_identifiers {i : Identifier} : i ∈ c.nodes.map Node.identifier ↔
    i.serviceGroup = p.serviceGroup ∧ ∃ s, p.Declares i.reference s := by
  rw [h.identifiers_perm.mem_iff, List.mem_map]
  constructor
  · rintro ⟨r, hr, rfl⟩
    exact ⟨rfl, Pipeline.mem_references.1 hr⟩
  · rintro ⟨hgroup, hs⟩
    refine ⟨i.reference, Pipeline.mem_references.2 hs, ?_⟩
    rw [← hgroup, Identifier.ofReference_reference]

theorem exists_step {n : Node} (hn : n ∈ c.nodes) :
    n.identifier.serviceGroup = p.serviceGroup ∧ ∃ s, p.Declares n.identifier.reference s ∧
      n.parents = s.dependencySet.map (.ofReference p.serviceGroup) := by
  obtain ⟨hgroup, s, hs⟩ := h.mem_identifiers.1 (List.mem_map_of_mem hn)
  refine ⟨hgroup, s, hs, h.parents n hn _ s hs ?_⟩
  rw [← hgroup, Identifier.ofReference_reference]

theorem isBlock : IsBlock p.serviceGroup c.nodes := by
  constructor
  · intro n hn
    exact (h.exists_step hn).1
  · exact h.identifiers_increasing
  · intro n hn j hj
    obtain ⟨r, s, hs, rfl, _⟩ := (h.mem_children n hn j).1 hj
    exact h.mem_identifiers.2 ⟨rfl, s, hs⟩
  · intro n hn j hj
    obtain ⟨_, s, hs, hparents⟩ := h.exists_step hn
    rw [hparents] at hj
    obtain ⟨r, hr, rfl⟩ := List.mem_map.1 hj
    exact h.mem_identifiers.2 ⟨rfl, Pipeline.mem_references.1 (h.dependency_mem _ s hs r hr)⟩
  · intro n hn
    exact Sorted.nodup_of_pairwise (h.children_increasing n hn)
  · intro n hn
    obtain ⟨_, s, _, hparents⟩ := h.exists_step hn
    rw [hparents]
    exact s.nodup_dependencySet.map (Identifier.ofReference_injective _)
  · intro m hm n hn
    obtain ⟨hgroup, t, ht, hparents⟩ := h.exists_step hm
    rw [h.mem_children n hn, hparents]
    constructor
    · rintro ⟨r, s, hs, hr, hmem⟩
      obtain rfl : m.identifier.reference = r := congrArg Identifier.reference hr
      rwa [ht.unique h.references_nodup hs]
    · intro hmem
      refine ⟨_, t, ht, ?_, hmem⟩
      rw [← hgroup, Identifier.ofReference_reference]

end Contribution.Presents

theorem isBlock_blockOf (pipelines : Pipelines) (group : String) :
    IsBlock group (blockOf pipelines group) := by
  cases h : contributionOf pipelines group with
  | error e =>
    rw [blockOf, h]
    exact IsBlock.nil group
  | ok c =>
    rw [blockOf_eq h]
    obtain ⟨p, _, rfl, hc⟩ := contributionOf_eq_ok.1 h
    exact (Pipeline.presents_of_contribution hc).isBlock

/-! ## Blocks and declarations -/

namespace Supplied
variable {pipelines : Pipelines} {group : String} (h : Supplied pipelines group)
include h

theorem exists_presents : ∃ p c, pipelines.lookup group = some p ∧ p.serviceGroup = group ∧
    blockOf pipelines group = c.nodes ∧ contributionOf pipelines group = .ok c ∧ c.Presents p := by
  obtain ⟨c, hc⟩ := h
  obtain ⟨p, hp, hgroup, hcontribution⟩ := contributionOf_eq_ok.1 hc
  exact ⟨p, c, hp, hgroup, blockOf_eq hc, hc, Pipeline.presents_of_contribution hcontribution⟩

theorem mem_block_iff {i : Identifier} : i ∈ (blockOf pipelines group).map Node.identifier ↔
    i.serviceGroup = group ∧ ∃ s, Pipelines.Declares pipelines i s := by
  obtain ⟨p, c, hp, rfl, hblock, _, hc⟩ := h.exists_presents
  rw [hblock, hc.mem_identifiers]
  refine and_congr_right fun hgroup => ?_
  simp only [Pipelines.Declares, hgroup, hp, Option.some.injEq, exists_eq_left']

theorem parents_eq {n : Node} (hn : n ∈ blockOf pipelines group) {s : Step}
    (hs : Pipelines.Declares pipelines n.identifier s) :
    n.parents = s.dependencySet.map (.ofReference group) := by
  obtain ⟨p, c, hp, rfl, hblock, _, hc⟩ := h.exists_presents
  rw [hblock] at hn
  obtain ⟨hgroup, _⟩ := hc.exists_step hn
  obtain ⟨q, hq, hs⟩ := hs
  rw [hgroup, hp] at hq
  obtain rfl := Option.some.inj hq
  apply hc.parents n hn _ s hs
  rw [← hgroup, Identifier.ofReference_reference]

theorem isRoot_iff {n : Node} (hn : n ∈ blockOf pipelines group) {s : Step}
    (hs : Pipelines.Declares pipelines n.identifier s) : n.parents = [] ↔ s.dependencySet = [] := by
  rw [h.parents_eq hn hs, List.map_eq_nil_iff]

/-- A step is a leaf of its block when no step of its pipeline depends on it. -/
theorem isLeaf_iff {n : Node} (hn : n ∈ blockOf pipelines group) :
    n.children = [] ↔ ∀ j s, Pipelines.Declares pipelines j s → j.serviceGroup = group →
      n.identifier.reference ∉ s.dependencySet := by
  have hblock := isBlock_blockOf pipelines group
  have hgroup := hblock.serviceGroup_eq n hn
  have hself : n.identifier = .ofReference group n.identifier.reference := by
    rw [← hgroup, Identifier.ofReference_reference]
  rw [List.eq_nil_iff_forall_not_mem]
  constructor
  · intro hleaf j s hs hj hdep
    obtain ⟨m, hm, rfl⟩ := List.mem_map.1 (h.mem_block_iff.2 ⟨hj, s, hs⟩)
    refine hleaf _ ((hblock.symmetric m hm n hn).2 ?_)
    rw [h.parents_eq hm hs, hself]
    exact List.mem_map_of_mem hdep
  · intro hleaf j hj
    obtain ⟨m, hm, rfl⟩ := List.mem_map.1 (hblock.children_mem n hn j hj)
    obtain ⟨hmgroup, s, hs⟩ := h.mem_block_iff.1 (List.mem_map_of_mem hm)
    have hparent := (hblock.symmetric m hm n hn).1 hj
    rw [h.parents_eq hm hs] at hparent
    obtain ⟨r, hr, heq⟩ := List.mem_map.1 hparent
    apply hleaf _ s hs hmgroup
    rwa [← heq]

end Supplied

end RolloutPlan
