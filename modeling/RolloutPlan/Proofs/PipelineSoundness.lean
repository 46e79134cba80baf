import RolloutPlan.Pipeline.Validation
import RolloutPlan.Proofs.PipelineObjections

/-!
# Sound pipelines

The validation of a pipeline reports the first of its problems, and the problems are read off the
declarations alone. A sound pipeline contributes to a graph, unless it asks for several subscriptions.

* `Pipeline.problems`: everything that is wrong with a pipeline, with the places where it stands.
* `Pipeline.checks_validate`: the validation.
* `Pipeline.Sound`: names and subscriptions are given, no name is used twice, and dependencies are
  declared. `Pipeline.problems_eq_nil_iff`, `Pipeline.validate_eq_ok_iff`: then there are no problems.
* `Pipeline.Sound.eq_of_mem_objections`: what still speaks against a sound pipeline.
-/

namespace RolloutPlan

set_option autoImplicit false

namespace Pipeline

/-! ## Problems -/

/-- What is wrong with a step of a resource group after some steps of the group. -/
def stepProblems (index : Nat) (group : String) (earlier : List Step) (s : Step) :
    List PipelineError :=
  objectIf (s.name ∈ earlier.map Step.name) (.duplicateStep index group earlier.length s.name)

/-- What is wrong with a resource group after some others. -/
def groupProblems (earlier : List ResourceGroup) (g : ResourceGroup) : List PipelineError :=
  objectIf (g.name = "") (.missingName earlier.length) ++
    (objectIf (g.target.subscription = "") (.missingSubscription earlier.length g.name) ++
    (objectIf (g.name ∈ earlier.map ResourceGroup.name) (.duplicateGroup earlier.length g.name) ++
    withEarlier (stepProblems earlier.length g.name) [] g.steps))

/-- Why a reference leads nowhere in a pipeline. -/
def danglingIn? (p : Pipeline) (r : StepReference) : Option DanglingReference :=
  if r ∈ p.references then none
  else some (if r.resourceGroup ∈ p.resourceGroups.map ResourceGroup.name then .noStep else .noGroup)

/-- The dependencies of a step that lead nowhere. -/
def dependencyProblems (p : Pipeline) (index : Nat) (group : String) (stepIndex : Nat) (s : Step) :
    List PipelineError :=
  s.dependencySet.flatMap fun r =>
    (p.danglingIn? r).toList.map (.unknownDependency index group stepIndex s.name r)

/-- Everything that is wrong with a pipeline, names before dependencies. -/
def problems (p : Pipeline) : List PipelineError :=
  withEarlier groupProblems [] p.resourceGroups ++
    p.resourceGroups.zipIdx.flatMap fun (g, i) =>
      g.steps.zipIdx.flatMap fun (s, j) => p.dependencyProblems i g.name j s

/-! ## Names -/

theorem mem_references_iff {p : Pipeline} {r : StepReference} : r ∈ p.references ↔
    ∃ g ∈ p.resourceGroups, g.name = r.resourceGroup ∧ r.step ∈ g.steps.map Step.name := by
  obtain ⟨group, step⟩ := r
  simp only [references, declaredSteps, List.mem_map, List.mem_flatMap, referenceOf]
  constructor
  · rintro ⟨_, ⟨g, hg, s, hs, rfl⟩, heq⟩
    obtain ⟨rfl, rfl⟩ := StepReference.mk.inj heq
    exact ⟨g, hg, rfl, s, hs, rfl⟩
  · rintro ⟨g, hg, rfl, s, hs, rfl⟩
    exact ⟨_, ⟨g, hg, s, hs, rfl⟩, rfl⟩

/-- Declarations that have been met are those of some resource groups. -/
structure Declarations.Lists (known : Declarations) (l : List ResourceGroup) : Prop where
  groups : ∀ name, name ∈ known.map Prod.fst ↔ name ∈ l.map ResourceGroup.name
  steps : ∀ name steps, known.lookup name = some steps → ∀ step,
    step ∈ steps ↔ ∃ g ∈ l, g.name = name ∧ step ∈ g.steps.map Step.name

theorem Declarations.Lists.cons {known : Declarations} {l : List ResourceGroup}
    (h : known.Lists l) {g : ResourceGroup} (hg : g.name ∉ l.map ResourceGroup.name)
    {steps : List String} (hsteps : ∀ step, step ∈ steps ↔ step ∈ g.steps.map Step.name) :
    Declarations.Lists ((g.name, steps) :: known) (l ++ [g]) := by
  constructor
  case groups =>
    intro name
    rw [List.map_cons, List.mem_cons, h.groups, List.map_append, List.mem_append, or_comm]
    simp
  case steps =>
    intro name names hnames step
    by_cases hname : name = g.name
    · subst hname
      rw [List.lookup_cons_self] at hnames
      obtain rfl := Option.some.inj hnames
      rw [hsteps]
      constructor
      · intro hstep
        exact ⟨g, by simp, rfl, hstep⟩
      · rintro ⟨g', hg', hname, hstep⟩
        rcases List.mem_append.1 hg' with hg' | hg'
        · exact absurd (hname ▸ List.mem_map_of_mem hg') hg
        · rwa [← List.mem_singleton.1 hg']
    · rw [Sorted.lookup_cons_of_ne hname] at hnames
      simp [h.steps name names hnames, or_and_right, exists_or, Ne.symm hname]

theorem dangling?_eq {p : Pipeline} {known : Declarations} (h : known.Lists p.resourceGroups)
    (r : StepReference) : dangling? known r = p.danglingIn? r := by
  unfold dangling? danglingIn?
  cases hsteps : known.lookup r.resourceGroup with
  | none =>
    have hgroup : r.resourceGroup ∉ p.resourceGroups.map ResourceGroup.name := by
      rw [← h.groups, ← Sorted.isSome_lookup_iff, hsteps]
      simp
    have hr : r ∉ p.references := by
      rw [mem_references_iff]
      rintro ⟨g, hg, hname, -⟩
      exact hgroup (hname ▸ List.mem_map_of_mem hg)
    rw [if_neg hr, if_neg hgroup]
  | some steps =>
    have hgroup : r.resourceGroup ∈ p.resourceGroups.map ResourceGroup.name := by
      rw [← h.groups, ← Sorted.isSome_lookup_iff, hsteps]
      rfl
    simp only [List.contains_iff_mem, h.steps _ steps hsteps, mem_references_iff, hgroup, if_true]

theorem checks_declareSteps (index : Nat) (group : String) : ∀ (l earlier : List Step)
    {seen : List String}, (∀ name, name ∈ seen ↔ name ∈ earlier.map Step.name) →
      Checks (declareSteps index group earlier.length seen l)
        (withEarlier (stepProblems index group) earlier l)
        fun names => ∀ name, name ∈ names ↔ name ∈ (earlier ++ l).map Step.name
  | [], earlier, seen, h => .ok (by simpa using h)
  | s :: l, earlier, seen, h => by
    rw [declareSteps, withEarlier, stepProblems, List.append_cons earlier s l]
    simp only [List.contains_iff_mem, h]
    refine .guard fun _ => ?_
    have hlength : earlier.length + 1 = (earlier ++ [s]).length := by simp
    rw [hlength]
    refine checks_declareSteps index group l (earlier ++ [s]) fun name => ?_
    simp [h, or_comm]

theorem checks_declareGroups : ∀ {l earlier : List ResourceGroup} {known : Declarations},
    known.Lists earlier → Checks (declareGroups earlier.length known l)
      (withEarlier groupProblems earlier l) fun known' => known'.Lists (earlier ++ l)
  | [], earlier, known, h => .ok (by simpa using h)
  | g :: l, earlier, known, h => by
    have hknown : known.any (·.1 = g.name) ↔ g.name ∈ earlier.map ResourceGroup.name := by
      rw [← h.groups]
      simp
    rw [declareGroups, withEarlier, groupProblems, List.append_cons earlier g l]
    simp only [hknown, List.append_assoc (objectIf _ _)]
    refine .guard fun _ => .guard fun _ => .guard fun hg => ?_
    have hsteps : Checks (declareSteps earlier.length g.name 0 [] g.steps)
        (withEarlier (stepProblems earlier.length g.name) [] g.steps)
        fun names => ∀ name, name ∈ names ↔ name ∈ g.steps.map Step.name :=
      checks_declareSteps _ _ g.steps [] fun _ => Iff.rfl
    refine hsteps.bind fun steps hsteps => ?_
    have hlength : earlier.length + 1 = (earlier ++ [g]).length := by simp
    rw [hlength]
    exact checks_declareGroups (h.cons hg hsteps)

/-! ## The validation -/

theorem checks_checkStep {p : Pipeline} {known : Declarations} (h : known.Lists p.resourceGroups)
    (index : Nat) (group : String) (stepIndex : Nat) (s : Step) :
    Checks (checkStep known index group stepIndex s) (p.dependencyProblems index group stepIndex s)
      fun _ => True := by
  refine .forM fun r _ => ?_
  rw [dangling?_eq h]
  cases p.danglingIn? r with
  | none => exact .ok trivial
  | some reason => exact .error _ _

/-- The validation reports the first problem. -/
theorem checks_validate (p : Pipeline) : Checks p.validate p.problems fun _ => True := by
  have hempty : Declarations.Lists [] [] := ⟨by simp, by simp⟩
  refine (checks_declareGroups hempty).bind fun known hknown => ?_
  exact .forM fun _ _ => .forM fun _ _ => checks_checkStep hknown ..

/-! ## Sound pipelines -/

/-- Names and subscriptions are given, no name is used twice, and dependencies are declared. -/
structure Sound (p : Pipeline) : Prop where
  named : ∀ g ∈ p.resourceGroups, g.name ≠ ""
  subscribed : ∀ g ∈ p.resourceGroups, g.target.subscription ≠ ""
  distinct_groups : (p.resourceGroups.map ResourceGroup.name).Nodup
  distinct_steps : ∀ g ∈ p.resourceGroups, (g.steps.map Step.name).Nodup
  declared : ∀ d ∈ p.declaredSteps, ∀ r ∈ d.2.dependencySet, r ∈ p.references

theorem dependencyProblems_eq_nil_iff {p : Pipeline} {index stepIndex : Nat} {group : String}
    {s : Step} : p.dependencyProblems index group stepIndex s = [] ↔
      ∀ r ∈ s.dependencySet, r ∈ p.references := by
  simp [dependencyProblems, danglingIn?]

theorem withEarlier_groupProblems_eq_nil_iff {l : List ResourceGroup} :
    withEarlier groupProblems [] l = [] ↔
      (∀ g ∈ l, g.name ≠ "") ∧ (∀ g ∈ l, g.target.subscription ≠ "") ∧
        (l.map ResourceGroup.name).Nodup ∧ ∀ g ∈ l, (g.steps.map Step.name).Nodup := by
  have hsteps : ∀ (index : Nat) (g : ResourceGroup),
      withEarlier (stepProblems index g.name) [] g.steps = [] ↔ (g.steps.map Step.name).Nodup := by
    intro index g
    simp only [withEarlier_eq_nil_iff, stepProblems, objectIf_eq_nil_iff, List.nil_append,
      nodup_map_iff]
  simp only [withEarlier_eq_nil_iff, groupProblems, List.nil_append, List.append_eq_nil_iff,
    objectIf_eq_nil_iff, hsteps]
  constructor
  · intro h
    have hmem : ∀ g ∈ l, g.name ≠ "" ∧ g.target.subscription ≠ "" ∧
        (g.steps.map Step.name).Nodup := by
      intro g hg
      obtain ⟨l₁, l₂, heq⟩ := List.append_of_mem hg
      obtain ⟨hname, hsubscription, -, hnodup⟩ := h l₁ g l₂ heq
      exact ⟨hname, hsubscription, hnodup⟩
    exact ⟨fun g hg => (hmem g hg).1, fun g hg => (hmem g hg).2.1,
      nodup_map_iff.2 fun l₁ g l₂ heq => (h l₁ g l₂ heq).2.2.1, fun g hg => (hmem g hg).2.2⟩
  · rintro ⟨hname, hsubscription, hgroups, hnodup⟩ l₁ g l₂ heq
    have hg : g ∈ l := by simp [heq]
    exact ⟨hname g hg, hsubscription g hg, nodup_map_iff.1 hgroups l₁ g l₂ heq, hnodup g hg⟩

theorem flatMap_zipIdx_eq_nil_iff {α β : Type} {f : α × Nat → List β} {P : α → Prop}
    (h : ∀ a i, f (a, i) = [] ↔ P a) {l : List α} : l.zipIdx.flatMap f = [] ↔ ∀ a ∈ l, P a := by
  rw [List.flatMap_eq_nil_iff]
  constructor
  · intro hf a ha
    rw [← List.zipIdx_map_fst 0 l] at ha
    obtain ⟨⟨_, i⟩, hi, rfl⟩ := List.mem_map.1 ha
    exact (h _ i).1 (hf _ hi)
  · rintro hP ⟨a, i⟩ hi
    exact (h a i).2 (hP a (List.fst_mem_of_mem_zipIdx hi))

/-- Nothing is wrong with a sound pipeline. -/
theorem problems_eq_nil_iff (p : Pipeline) : p.problems = [] ↔ p.Sound := by
  have hdependencies : (p.resourceGroups.zipIdx.flatMap fun (g, i) =>
      g.steps.zipIdx.flatMap fun (s, j) => p.dependencyProblems i g.name j s) = [] ↔
        ∀ d ∈ p.declaredSteps, ∀ r ∈ d.2.dependencySet, r ∈ p.references := by
    rw [flatMap_zipIdx_eq_nil_iff fun g i => flatMap_zipIdx_eq_nil_iff fun s j =>
      dependencyProblems_eq_nil_iff]
    simp only [declaredSteps, List.mem_flatMap, List.mem_map]
    constructor
    · rintro h _ ⟨g, hg, s, hs, rfl⟩
      exact h g hg s hs
    · intro h g hg s hs
      exact h (g, s) ⟨g, hg, s, hs, rfl⟩
  rw [problems, List.append_eq_nil_iff, withEarlier_groupProblems_eq_nil_iff, hdependencies]
  constructor
  · rintro ⟨⟨hnamed, hsubscribed, hgroups, hsteps⟩, hdeclared⟩
    exact ⟨hnamed, hsubscribed, hgroups, hsteps, hdeclared⟩
  · rintro ⟨hnamed, hsubscribed, hgroups, hsteps, hdeclared⟩
    exact ⟨⟨hnamed, hsubscribed, hgroups, hsteps⟩, hdeclared⟩

theorem validate_eq_ok_iff (p : Pipeline) : p.validate = .ok () ↔ p.Sound := by
  rw [← problems_eq_nil_iff, ← p.checks_validate.exists_ok_iff]
  constructor
  · intro h
    exact ⟨(), h⟩
  · rintro ⟨⟨⟩, h⟩
    exact h

/-- A sound pipeline can only ask for several subscriptions. -/
theorem Sound.eq_of_mem_objections {p : Pipeline} (h : p.Sound) {e : GraphError}
    (he : e ∈ p.objections) : e = .severalSubscriptions p.serviceGroup := by
  rcases List.mem_append.1 he with he | he
  · obtain ⟨l₁, g, l₂, heq, he⟩ := mem_withEarlier.1 he
    rcases List.mem_append.1 he with he | he
    · exact absurd (mem_objectIf.1 he).1 (nodup_map_iff.1 h.distinct_groups l₁ g l₂ heq)
    rcases List.mem_append.1 he with he | he
    · exact (mem_objectIf.1 he).2
    · obtain ⟨m₁, s, m₂, hsteps, he⟩ := mem_withEarlier.1 he
      exact absurd (mem_objectIf.1 he).1
        (nodup_map_iff.1 (h.distinct_steps g (by simp [heq])) m₁ s m₂ hsteps)
  · obtain ⟨d, hd, he⟩ := List.mem_flatMap.1 he
    obtain ⟨r, hr, rfl⟩ := List.mem_map.1 he
    obtain ⟨hr, hnot⟩ := List.mem_filter.1 hr
    exact absurd (h.declared d hd r hr) (of_decide_eq_true hnot)

end Pipeline

end RolloutPlan
