import RolloutPlan.Proofs.PipelineSoundness

/-!
# Two checks of a pipeline

The validation of a pipeline and its contribution to a graph ask the same of names and dependencies, in
the same order. Only the validation asks for names and subscriptions that are given, and only the
contribution asks how often a subscription is requested.

* `PipelineError.objection?`: what a problem says against a contribution.
* `Pipeline.filterMap_problems`: without what only one of them asks, the problems are the objections.
* `Pipeline.validate_iff_contribution`: the two checks end alike where nothing else is asked.
-/

namespace RolloutPlan

set_option autoImplicit false

/-- What a problem says against a contribution. A name or a subscription that is not given does not
matter there. -/
def PipelineError.objection? (serviceGroup : String) : PipelineError → Option GraphError
  | .missingName _ => none
  | .missingSubscription _ _ => none
  | .duplicateGroup _ name => some (.duplicateResourceGroup serviceGroup name)
  | .duplicateStep _ group _ step => some (.duplicateStep serviceGroup ⟨group, step⟩)
  | .unknownDependency _ group _ step dependency _ =>
    some (.unknownDependency serviceGroup ⟨group, step⟩ dependency)

/-- Whether an objection is about names or dependencies. -/
def GraphError.isShared : GraphError → Bool
  | .severalSubscriptions _ => false
  | _ => true

/-! ## Lists of objections -/

section
variable {α β γ : Type}

/-- What goes along with joining lists can be done to what is said about each element. -/
theorem withEarlier_comp {F : List β → List γ} (hnil : F [] = [])
    (happend : ∀ l m, F (l ++ m) = F l ++ F m) (f : List α → α → List β) (l : List α) :
    ∀ earlier, F (withEarlier f earlier l) = withEarlier (fun e a => F (f e a)) earlier l := by
  induction l with
  | nil =>
    intro earlier
    exact hnil
  | cons a l ih =>
    intro earlier
    rw [withEarlier, withEarlier, happend, ih]

theorem filterMap_objectIf {c : Prop} [Decidable c] (e : β) (f : β → Option γ) :
    (objectIf c e).filterMap f = (f e).elim [] (objectIf c) := by
  unfold objectIf
  split_ifs <;> cases hf : f e <;> simp [hf]

theorem filter_objectIf {c : Prop} [Decidable c] (e : β) (q : β → Bool) :
    (objectIf c e).filter q = if q e then objectIf c e else [] := by
  unfold objectIf
  split_ifs with hc hq <;> simp_all

theorem flatMap_zipIdx (f : α → List β) (l : List α) :
    l.zipIdx.flatMap (fun e => f e.1) = l.flatMap f := by
  rw [← List.flatMap_map, List.zipIdx_map_fst]

theorem head?_filterMap {f : α → Option β} {l : List α} (h : ∀ a ∈ l, (f a).isSome) :
    (l.filterMap f).head? = l.head?.bind f := by
  cases l with
  | nil => rfl
  | cons a l =>
    obtain ⟨b, hb⟩ := Option.isSome_iff_exists.1 (h a List.mem_cons_self)
    rw [List.filterMap_cons_some hb, List.head?_cons, List.head?_cons, Option.bind_some, hb]

end

namespace Pipeline

/-! ## What both checks ask -/

theorem filterMap_stepProblems (serviceGroup : String) (index : Nat) (g : ResourceGroup) :
    (withEarlier (stepProblems index g.name) [] g.steps).filterMap
        (PipelineError.objection? serviceGroup) =
      (withEarlier (Inventory.stepObjections serviceGroup g.name) [] g.steps).filter
        GraphError.isShared := by
  rw [withEarlier_comp rfl (fun _ _ => List.filterMap_append),
    withEarlier_comp rfl (fun _ _ => List.filter_append ..)]
  congr 1
  funext earlier s
  rw [stepProblems, Inventory.stepObjections, filterMap_objectIf, filter_objectIf]
  rfl

theorem filterMap_groupProblems (serviceGroup : String) (earlier : List ResourceGroup)
    (g : ResourceGroup) :
    (groupProblems earlier g).filterMap (PipelineError.objection? serviceGroup) =
      (Inventory.groupObjections serviceGroup earlier g).filter GraphError.isShared := by
  simp only [groupProblems, Inventory.groupObjections, List.filterMap_append, List.filter_append,
    filterMap_objectIf, filter_objectIf, filterMap_stepProblems]
  rfl

theorem filterMap_dependencyProblems (p : Pipeline) (index stepIndex : Nat) (g : ResourceGroup)
    (s : Step) :
    (p.dependencyProblems index g.name stepIndex s).filterMap
        (PipelineError.objection? p.serviceGroup) = p.dependencyObjections (g, s) := by
  have hobjection : ∀ r, ((p.danglingIn? r).toList.map
        (PipelineError.unknownDependency index g.name stepIndex s.name r)).filterMap
          (PipelineError.objection? p.serviceGroup) =
      if r ∉ p.references then
        [.unknownDependency p.serviceGroup (referenceOf (g, s)) r] else [] := by
    intro r
    unfold danglingIn?
    by_cases hr : r ∈ p.references
    · rw [if_pos hr, if_neg (not_not.2 hr)]
      rfl
    · rw [if_neg hr, if_pos hr]
      rfl
  rw [dependencyProblems, dependencyObjections, List.filterMap_flatMap]
  simp only [hobjection]
  rw [flatMap_ite, List.map_eq_flatMap]

theorem filter_dependencyObjections (p : Pipeline) (d : ResourceGroup × Step) :
    (p.dependencyObjections d).filter GraphError.isShared = p.dependencyObjections d := by
  rw [List.filter_eq_self]
  intro e he
  obtain ⟨r, _, rfl⟩ := List.mem_map.1 he
  rfl

/-- Without what only one of the two checks asks, the problems of a pipeline are the objections to it. -/
theorem filterMap_problems (p : Pipeline) :
    p.problems.filterMap (PipelineError.objection? p.serviceGroup) =
      p.objections.filter GraphError.isShared := by
  have hgroups : (withEarlier groupProblems [] p.resourceGroups).filterMap
        (PipelineError.objection? p.serviceGroup) =
      (withEarlier (Inventory.groupObjections p.serviceGroup) [] p.resourceGroups).filter
        GraphError.isShared := by
    rw [withEarlier_comp rfl (fun _ _ => List.filterMap_append),
      withEarlier_comp rfl (fun _ _ => List.filter_append ..)]
    simp only [filterMap_groupProblems]
  have hsteps : ∀ g : ResourceGroup,
      (g.steps.zipIdx.flatMap fun e => p.dependencyObjections (g, e.1)) =
        g.steps.flatMap fun s => p.dependencyObjections (g, s) :=
    fun g => flatMap_zipIdx (fun s => p.dependencyObjections (g, s)) g.steps
  have hgroup := flatMap_zipIdx (fun g : ResourceGroup =>
    g.steps.flatMap fun s => p.dependencyObjections (g, s)) p.resourceGroups
  rw [problems, objections, List.filterMap_append, List.filter_append, hgroups, declaredSteps]
  simp only [List.filterMap_flatMap, List.filter_flatMap, filterMap_dependencyProblems,
    filter_dependencyObjections, List.flatMap_assoc, List.flatMap_map, hsteps, hgroup]

/-! ## What only one check asks -/

theorem isSome_objection?_of_mem_problems {p : Pipeline}
    (h : ∀ g ∈ p.resourceGroups, g.name ≠ "" ∧ g.target.subscription ≠ "") {problem : PipelineError}
    (hproblem : problem ∈ p.problems) : (problem.objection? p.serviceGroup).isSome := by
  rcases List.mem_append.1 hproblem with hproblem | hproblem
  · obtain ⟨l₁, g, l₂, heq, hproblem⟩ := mem_withEarlier.1 hproblem
    obtain ⟨hname, hsubscription⟩ := h g (by simp [heq])
    simp only [groupProblems, List.mem_append, mem_objectIf, hname, hsubscription, false_and,
      false_or] at hproblem
    rcases hproblem with ⟨_, rfl⟩ | hproblem
    · rfl
    · obtain ⟨m₁, s, m₂, _, hproblem⟩ := mem_withEarlier.1 hproblem
      obtain ⟨_, rfl⟩ := mem_objectIf.1 hproblem
      rfl
  · obtain ⟨⟨g, i⟩, _, hproblem⟩ := List.mem_flatMap.1 hproblem
    obtain ⟨⟨s, j⟩, _, hproblem⟩ := List.mem_flatMap.1 hproblem
    obtain ⟨r, _, hproblem⟩ := List.mem_flatMap.1 hproblem
    obtain ⟨reason, _, rfl⟩ := List.mem_map.1 hproblem
    rfl

theorem isShared_of_mem_objections {p : Pipeline} (h : p.requests.length ≤ 1) {e : GraphError}
    (he : e ∈ p.objections) : e.isShared := by
  rcases List.mem_append.1 he with he | he
  · obtain ⟨l₁, g, l₂, heq, he⟩ := mem_withEarlier.1 he
    simp only [Inventory.groupObjections, List.mem_append, mem_objectIf] at he
    rcases he with ⟨_, rfl⟩ | ⟨⟨hg, hearlier⟩, rfl⟩ | he
    · rfl
    · rcases (length_flatMap_le_one_iff.1 h).2 l₁ g l₂ heq with hnone | hnone
      · exact absurd hnone hg
      · exact absurd hnone hearlier
    · obtain ⟨m₁, s, m₂, _, he⟩ := mem_withEarlier.1 he
      obtain ⟨_, rfl⟩ := mem_objectIf.1 he
      rfl
  · obtain ⟨d, _, he⟩ := List.mem_flatMap.1 he
    obtain ⟨r, _, rfl⟩ := List.mem_map.1 he
    rfl

/-- The first objection is what the first problem says. -/
theorem head?_objections {p : Pipeline}
    (hgiven : ∀ g ∈ p.resourceGroups, g.name ≠ "" ∧ g.target.subscription ≠ "")
    (hone : p.requests.length ≤ 1) :
    p.objections.head? = p.problems.head?.bind (PipelineError.objection? p.serviceGroup) := by
  have hshared : p.objections.filter GraphError.isShared = p.objections :=
    List.filter_eq_self.2 fun _ he => isShared_of_mem_objections hone he
  rw [← hshared, ← filterMap_problems]
  exact head?_filterMap fun _ hproblem => isSome_objection?_of_mem_problems hgiven hproblem

/-! ## The two checks -/

/-- What is still asked of a pipeline that has one request at most. -/
theorem coherent_iff {p : Pipeline} (hone : p.requests.length ≤ 1) : p.Coherent ↔
    (p.resourceGroups.map ResourceGroup.name).Nodup ∧
      (∀ g ∈ p.resourceGroups, (g.steps.map Step.name).Nodup) ∧
      ∀ d ∈ p.declaredSteps, ∀ r ∈ d.2.dependencySet, r ∈ p.references := by
  constructor
  · intro h
    exact ⟨h.distinct_groups, h.distinct_steps, h.declared⟩
  · rintro ⟨hgroups, hsteps, hdeclared⟩
    exact ⟨hgroups, hsteps, hone, hdeclared⟩

theorem sound_iff_coherent {p : Pipeline}
    (hgiven : ∀ g ∈ p.resourceGroups, g.name ≠ "" ∧ g.target.subscription ≠ "")
    (hone : p.requests.length ≤ 1) : p.Sound ↔ p.Coherent := by
  rw [coherent_iff hone]
  constructor
  · intro h
    exact ⟨h.distinct_groups, h.distinct_steps, h.declared⟩
  · rintro ⟨hgroups, hsteps, hdeclared⟩
    exact ⟨fun g hg => (hgiven g hg).1, fun g hg => (hgiven g hg).2, hgroups, hsteps, hdeclared⟩

theorem exists_error_of_requests {p : Pipeline} (h : 2 ≤ p.requests.length) :
    ∃ e, p.contribution = .error e := by
  cases hp : p.contribution with
  | ok c =>
    have := (p.contributes_iff.1 ⟨c, hp⟩).one_request
    omega
  | error e => exact ⟨e, rfl⟩

/-- Where all names and subscriptions are given and at most one subscription is requested, a pipeline is
sound when it contributes, and otherwise both checks report the same. Two requests are never accepted in
a contribution. -/
theorem validate_iff_contribution (p : Pipeline) :
    ((∀ g ∈ p.resourceGroups, g.name ≠ "" ∧ g.target.subscription ≠ "") → p.requests.length ≤ 1 →
      (p.validate = .ok () ↔ ∃ c, p.contribution = .ok c) ∧
      ((∃ c, p.contribution = .ok c) ↔
        (p.resourceGroups.map ResourceGroup.name).Nodup ∧
        (∀ g ∈ p.resourceGroups, (g.steps.map Step.name).Nodup) ∧
        ∀ d ∈ p.declaredSteps, ∀ r ∈ d.2.dependencySet, r ∈ p.references) ∧
      (∀ problem, p.validate = .error problem →
        ∃ e, problem.objection? p.serviceGroup = some e ∧ p.contribution = .error e) ∧
      ∀ e, p.contribution = .error e →
        ∃ problem, p.validate = .error problem ∧ problem.objection? p.serviceGroup = some e) ∧
    (2 ≤ p.requests.length → ∃ e, p.contribution = .error e) := by
  refine ⟨fun hgiven hone => ?_, exists_error_of_requests⟩
  have hproblems := p.checks_validate.error_iff
  have hobjections := p.checks_contribution.error_iff
  have hhead := head?_objections hgiven hone
  refine ⟨?_, ?_, ?_, ?_⟩
  · rw [validate_eq_ok_iff, contributes_iff, sound_iff_coherent hgiven hone]
  · rw [contributes_iff, coherent_iff hone]
  · intro problem h
    rw [hproblems] at h
    obtain ⟨e, he⟩ := Option.isSome_iff_exists.1
      (isSome_objection?_of_mem_problems hgiven (List.mem_of_mem_head? h))
    refine ⟨e, he, (hobjections e).2 ?_⟩
    rw [hhead, h, Option.bind_some, he]
  · intro e h
    rw [hobjections, hhead] at h
    obtain ⟨problem, hproblem, he⟩ := Option.bind_eq_some_iff.1 h
    exact ⟨problem, (hproblems problem).2 hproblem, he⟩

namespace TwoDefects

/-- A step that depends on one that is not declared, in front of a step with a name that is used
twice. -/
def pipeline : Pipeline where
  serviceGroup := "network"
  resourceGroups := [
    { target := ⟨"rg", "rg", "main", []⟩
      steps := [⟨{ name := "create", dependsOn := [⟨"rg", "plan"⟩] }, .logs {}⟩] },
    { target := ⟨"dns", "dns", "main", []⟩
      subscriptionProvisioning := some { displayName := {} }
      steps := [⟨{ name := "zone" }, .logs {}⟩, ⟨{ name := "zone" }, .logs {}⟩] }]

theorem validate_pipeline : pipeline.validate = .error (.duplicateStep 1 "dns" 1 "zone") := by
  cbv

end TwoDefects

theorem contribution_with_two_defects :
    (∀ g ∈ TwoDefects.pipeline.resourceGroups, g.name ≠ "" ∧ g.target.subscription ≠ "") ∧
      TwoDefects.pipeline.requests.length ≤ 1 ∧
      TwoDefects.pipeline.validate = .error (.duplicateStep 1 "dns" 1 "zone") ∧
      TwoDefects.pipeline.contribution = .error (.duplicateStep "network" ⟨"dns", "zone"⟩) := by
  have hgiven : ∀ g ∈ TwoDefects.pipeline.resourceGroups,
      g.name ≠ "" ∧ g.target.subscription ≠ "" := by decide
  have hone : TwoDefects.pipeline.requests.length ≤ 1 := by decide
  obtain ⟨-, -, hsame, -⟩ := (validate_iff_contribution TwoDefects.pipeline).1 hgiven hone
  obtain ⟨e, he, herror⟩ := hsame _ TwoDefects.validate_pipeline
  obtain rfl := Option.some.inj he
  exact ⟨hgiven, hone, TwoDefects.validate_pipeline, herror⟩

end Pipeline

end RolloutPlan
