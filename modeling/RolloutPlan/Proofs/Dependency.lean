import Mathlib.Data.List.Nodup
import Mathlib.Logic.Relation
import RolloutPlan.Proofs.Sorted
import RolloutPlan.Pipeline.Basic

/-!
# Dependencies within a pipeline

What a pipeline says about the order of its own steps, read off its declarations.

* `Pipeline.Declares`: a step stands in the pipeline under a reference.
* `Pipeline.references`: the references of all its steps, in the order of their declarations.
* `Pipeline.DependsOn`, `Pipeline.IsCyclic`: a step waits for another one; steps wait for each other.
-/

namespace RolloutPlan

set_option autoImplicit false

@[simp] theorem Step.mem_dependencySet {s : Step} {r : StepReference} :
    r ∈ s.dependencySet ↔ r ∈ s.header.dependsOn ∨ r ∈ s.requiredInputs := by
  rw [dependencySet, Sorted.mem_ofList, List.mem_append]

theorem Step.pairwise_dependencySet (s : Step) : s.dependencySet.Pairwise (· < ·) :=
  Sorted.pairwise_ofList _

theorem Step.nodup_dependencySet (s : Step) : s.dependencySet.Nodup :=
  Sorted.nodup_of_pairwise s.pairwise_dependencySet

namespace Pipeline

/-- The references of a declared step. -/
def referenceOf (d : ResourceGroup × Step) : StepReference := ⟨d.1.name, d.2.name⟩

/-- The references of all steps, in the order of their declarations. -/
def references (p : Pipeline) : List StepReference := p.declaredSteps.map referenceOf

/-- A step stands in the pipeline under a reference. -/
def Declares (p : Pipeline) (r : StepReference) (s : Step) : Prop :=
  ∃ g, (g, s) ∈ p.declaredSteps ∧ referenceOf (g, s) = r

/-- A step directly waits for another one. -/
def DependsOn (p : Pipeline) (a b : StepReference) : Prop :=
  ∃ s, p.Declares a s ∧ b ∈ s.dependencySet

/-- Some steps wait for each other, or one for itself. -/
def IsCyclic (p : Pipeline) : Prop := ∃ r, Relation.TransGen p.DependsOn r r

theorem mem_references {p : Pipeline} {r : StepReference} :
    r ∈ p.references ↔ ∃ s, p.Declares r s := by
  simp only [references, Declares, List.mem_map, Prod.exists]
  exact exists_comm

theorem Declares.unique {p : Pipeline} (h : p.references.Nodup) {r : StepReference} {s s' : Step}
    (hs : p.Declares r s) (hs' : p.Declares r s') : s = s' := by
  obtain ⟨g, hg, hr⟩ := hs
  obtain ⟨g', hg', hr'⟩ := hs'
  have := List.inj_on_of_nodup_map h hg hg' (hr.trans hr'.symm)
  exact congrArg Prod.snd this

end Pipeline

end RolloutPlan
