import RolloutPlan.Proofs.AssemblyOutcome

/-!
# Resource groups that services share

Services may share a resource group as long as they agree on where it deploys to. A graph records where
each resource group deploys to and who declares it, and the one request for a subscription.

* `Pipelines.DeclaresTarget`, `Pipelines.DeclaresGroup`: what the pipeline of a service says about a
  resource group.
* `Pipelines.AreOwners`: the services that declare a resource group, in increasing order.
* `Graph.RecordsDeclarations`: everything that a graph records of the declarations of some services.
* `conflict_of_head?_serviceObjections`: what a service is reported for that does not agree with those
  before it.
* `GraphSource.sharedTargets`: what is recorded, and who is named when services do not agree.
-/

namespace RolloutPlan

set_option autoImplicit false

/-! ## Declarations of services -/

namespace Pipelines

/-- The pipeline of a service says where a resource group deploys to. -/
def DeclaresTarget (pipelines : Pipelines) (s : Service) (target : ResourceGroupTarget) : Prop :=
  ∃ p, pipelines.lookup s.serviceGroup = some p ∧ ∃ g ∈ p.resourceGroups, g.target = target

/-- The pipeline of a service declares a resource group. -/
def DeclaresGroup (pipelines : Pipelines) (s : Service) (name : String) : Prop :=
  ∃ target, pipelines.DeclaresTarget s target ∧ target.name = name

/-- The service groups of those services that declare a resource group, in increasing order. -/
structure AreOwners (pipelines : Pipelines) (l : List Service) (name : String)
    (owners : List String) : Prop where
  increasing : owners.Pairwise (· < ·)
  mem_iff : ∀ group, group ∈ owners ↔
    ∃ s ∈ l, s.serviceGroup = group ∧ pipelines.DeclaresGroup s name

end Pipelines

/-- A graph has recorded what the pipelines of some services declare. -/
structure Graph.RecordsDeclarations (g : Graph) (l : List Service) (pipelines : Pipelines) : Prop where
  /-- Every service has a pipeline of its own. -/
  supplied : ∀ s ∈ l, ∃ p, pipelines.lookup s.serviceGroup = some p ∧
    p.serviceGroup = s.serviceGroup
  declared_iff : ∀ name, name ∈ g.resourceGroups.keys ↔
    ∃ s ∈ l, pipelines.DeclaresGroup s name
  /-- The first service that declares a resource group says where it deploys to. -/
  first : ∀ name recorded, g.resourceGroups.lookup name = some recorded → recorded.name = name ∧
    ∃ earlier s later, l = earlier ++ s :: later ∧ pipelines.DeclaresTarget s recorded ∧
      ∀ s' ∈ earlier, ¬ pipelines.DeclaresGroup s' name
  agrees : ∀ name recorded, g.resourceGroups.lookup name = some recorded →
    ∀ s ∈ l, ∀ target, pipelines.DeclaresTarget s target → target.name = name →
      recorded.agrees target
  owners : ∀ name, pipelines.AreOwners l name (g.ownersOf name)
  /-- There is a subscription when there is exactly one request for one. -/
  subscription_iff : ∀ x, g.subscription = some x ↔
    (pipelines.ofServices l).flatMap Pipeline.requests = [x]

namespace Pipelines
variable {pipelines : Pipelines} {l : List Service}

theorem declaresTarget_of_mem_targets {s : Service} {p : Pipeline}
    (hp : pipelines.lookup s.serviceGroup = some p) {e : String × ResourceGroupTarget}
    (h : e ∈ p.targets) : pipelines.DeclaresTarget s e.2 ∧ e.2.name = e.1 := by
  obtain ⟨g, hg, rfl⟩ := List.mem_map.1 h
  exact ⟨⟨p, hp, g, hg, rfl⟩, rfl⟩

theorem declaresGroup_iff {s : Service} {name : String} : pipelines.DeclaresGroup s name ↔
    ∃ p, pipelines.lookup s.serviceGroup = some p ∧ name ∈ p.targets.map Prod.fst := by
  simp only [Pipeline.keys_targets, List.mem_map]
  constructor
  · rintro ⟨_, ⟨p, hp, g, hg, rfl⟩, hname⟩
    exact ⟨p, hp, g, hg, hname⟩
  · rintro ⟨p, hp, g, hg, hname⟩
    exact ⟨g.target, ⟨p, hp, g, hg, rfl⟩, hname⟩

theorem areOwners_recordedOwners (hsupplied : ∀ s ∈ l, ∃ p,
    pipelines.lookup s.serviceGroup = some p ∧ p.serviceGroup = s.serviceGroup) (name : String) :
    pipelines.AreOwners l name (recordedOwners (pipelines.ofServices l) name) := by
  refine ⟨Sorted.pairwise_ofList _, fun group => ?_⟩
  rw [mem_recordedOwners]
  constructor
  · rintro ⟨p, hp, hname, rfl⟩
    obtain ⟨s, hs, hlookup⟩ := List.mem_filterMap.1 hp
    obtain ⟨q, hq, hgroup⟩ := hsupplied s hs
    obtain rfl := Option.some.inj (hlookup.symm.trans hq)
    exact ⟨s, hs, hgroup.symm, declaresGroup_iff.2 ⟨p, hlookup, hname⟩⟩
  · rintro ⟨s, hs, rfl, hdeclares⟩
    obtain ⟨p, hlookup, hname⟩ := declaresGroup_iff.1 hdeclares
    obtain ⟨q, hq, hgroup⟩ := hsupplied s hs
    obtain rfl := Option.some.inj (hlookup.symm.trans hq)
    exact ⟨p, List.mem_filterMap.2 ⟨s, hs, hlookup⟩, hname, hgroup⟩

theorem recordedTarget?_ofServices (pipelines : Pipelines) (l : List Service) (name : String) :
    recordedTarget? (pipelines.ofServices l) name = l.findSome? fun s =>
      (pipelines.lookup s.serviceGroup).bind fun p => p.targets.lookup name := by
  induction l with
  | nil => rfl
  | cons s l ih =>
    unfold recordedTarget? ofServices at ih ⊢
    cases hp : pipelines.lookup s.serviceGroup with
    | none => simpa [hp] using ih
    | some p => simp [hp, List.findSome?_cons, ih]

/-- What is recorded comes from the first service that declares the resource group. -/
theorem first_of_recordedTarget? {name : String} {recorded : ResourceGroupTarget}
    (h : recordedTarget? (pipelines.ofServices l) name = some recorded) : recorded.name = name ∧
      ∃ earlier s later, l = earlier ++ s :: later ∧ pipelines.DeclaresTarget s recorded ∧
        ∀ s' ∈ earlier, ¬ pipelines.DeclaresGroup s' name := by
  rw [recordedTarget?_ofServices] at h
  obtain ⟨earlier, s, later, rfl, hs, hnone⟩ := List.findSome?_eq_some_iff.1 h
  obtain ⟨p, hp, htarget⟩ := Option.bind_eq_some_iff.1 hs
  obtain ⟨l₁, l₂, htargets, -⟩ := List.lookup_eq_some_iff.1 htarget
  have hmem : (name, recorded) ∈ p.targets := by simp [htargets]
  obtain ⟨hdeclares, hname⟩ := declaresTarget_of_mem_targets hp hmem
  refine ⟨hname, earlier, s, later, rfl, hdeclares, ?_⟩
  intro s' hs' hgroup
  obtain ⟨q, hq, hmem⟩ := declaresGroup_iff.1 hgroup
  have hfound := hnone s' hs'
  rw [hq, Option.bind_some] at hfound
  rw [← Sorted.isSome_lookup_iff, hfound] at hmem
  cases hmem

end Pipelines

/-! ## What a graph records -/

theorem head?_eq_some_iff_of_length_le_one {α : Type} {l : List α} (h : l.length ≤ 1) {a : α} :
    l.head? = some a ↔ l = [a] := by
  cases l with
  | nil => simp
  | cons b l =>
    obtain rfl : l = [] := List.length_eq_zero_iff.1 (by simpa using h)
    simp

/-- A graph that has recorded the pipelines of services that fit together has recorded their
declarations. -/
theorem Graph.Records.recordsDeclarations {pipelines : Pipelines} {l : List Service} {g : Graph}
    (h : g.Records (pipelines.ofServices l))
    (hfit : withEarlier (serviceObjections pipelines) [] l = []) :
    g.RecordsDeclarations l pipelines := by
  obtain ⟨-, hsupplied, -, hagree, hrequests⟩ := withEarlier_serviceObjections_eq_nil_iff.1 hfit
  constructor
  case supplied => exact hsupplied
  case declared_iff =>
    intro name
    rw [← SortedMap.isSome_lookup_iff, h.target, recordedTarget?, List.findSome?_isSome_iff]
    simp only [Sorted.isSome_lookup_iff, Pipelines.ofServices, List.mem_filterMap,
      Pipelines.declaresGroup_iff]
    constructor
    · rintro ⟨p, ⟨s, hs, hp⟩, hname⟩
      exact ⟨s, hs, p, hp, hname⟩
    · rintro ⟨s, hs, p, hp, hname⟩
      exact ⟨p, ⟨s, hs, hp⟩, hname⟩
  case first =>
    intro name recorded hrecorded
    rw [h.target] at hrecorded
    exact Pipelines.first_of_recordedTarget? hrecorded
  case agrees =>
    rintro name recorded hrecorded s hs target ⟨p, hp, x, hx, rfl⟩ hname
    rw [h.target] at hrecorded
    obtain ⟨rfl, earlier, s', later, rfl, ⟨q, hq, y, hy, rfl⟩, -⟩ :=
      Pipelines.first_of_recordedTarget? hrecorded
    exact hagree q (List.mem_filterMap.2 ⟨s', by simp, hq⟩) p (List.mem_filterMap.2 ⟨s, hs, hp⟩)
      y hy x hx hname.symm
  case owners =>
    intro name
    rw [h.owners]
    exact Pipelines.areOwners_recordedOwners hsupplied name
  case subscription_iff =>
    intro x
    rw [h.subscription]
    exact head?_eq_some_iff_of_length_le_one hrequests

/-! ## Conflicts -/

theorem conflict_not_mem_objections {p : Pipeline} {owners : List String} {newOwner : String}
    {recorded incoming : ResourceGroupTarget} :
    .conflictingTargets owners newOwner recorded incoming ∉ p.objections := by
  intro h
  rcases p.mem_objections_cases h with ⟨_, h⟩ | h | ⟨_, h⟩ | ⟨_, _, h⟩ <;> cases h

/-- A service whose first fault is that it does not agree with those before it is new and has a pipeline
of its own, and one of its targets does not agree with what is recorded of the services before it. -/
theorem conflict_of_head?_serviceObjections {pipelines : Pipelines} {earlier : List Service}
    {s : Service} {owners : List String} {newOwner : String} {recorded incoming : ResourceGroupTarget}
    (h : (serviceObjections pipelines earlier s).head? =
      some (.conflictingTargets owners newOwner recorded incoming)) :
    s.serviceGroup ∉ earlier.map Service.serviceGroup ∧ s.serviceGroup = newOwner ∧
      pipelines.DeclaresTarget s incoming ∧
      owners = recordedOwners (pipelines.ofServices earlier) incoming.name ∧
      recordedTarget? (pipelines.ofServices earlier) incoming.name = some recorded ∧
      ¬ recorded.agrees incoming := by
  -- What is asked before the targets are compared would have been reported instead.
  obtain ⟨hnew, h⟩ := eq_nil_of_head?_append h (by simp)
  cases hp : pipelines.lookup s.serviceGroup with
  | none =>
    rw [hp] at h
    cases h
  | some p =>
    simp only [hp] at h
    obtain ⟨hgroup, h⟩ := eq_nil_of_head?_append h (by simp)
    obtain ⟨hobjections, h⟩ := eq_nil_of_head?_append h conflict_not_mem_objections
    rw [objectIf_eq_nil_iff] at hnew hgroup
    have hcoherent := p.objections_eq_nil_iff.1 hobjections
    rcases List.mem_append.1 (List.mem_of_mem_head? h) with h | h
    · obtain ⟨e, he, h⟩ := List.mem_flatMap.1 h
      rw [(Sorted.ofPairs_perm (p.keys_targets ▸ hcoherent.distinct_groups)).mem_iff] at he
      obtain ⟨hdeclares, hname⟩ := Pipelines.declaresTarget_of_mem_targets hp he
      unfold targetObjections at h
      cases hrecorded : recordedTarget? (pipelines.ofServices earlier) e.1 with
      | none =>
        rw [hrecorded] at h
        cases h
      | some r =>
        rw [hrecorded] at h
        obtain ⟨hagrees, heq⟩ := mem_objectIf.1 h
        obtain ⟨rfl, rfl, rfl, rfl⟩ := GraphError.conflictingTargets.inj heq
        rw [← hname] at hrecorded
        exact ⟨hnew, (not_not.1 hgroup).symm, hdeclares, by rw [hname], hrecorded, hagrees⟩
    · unfold subscriptionObjections at h
      split at h
      · cases List.mem_singleton.1 h
      · cases h

/-- A graph records what the pipelines of its services declare: a resource group is recorded as the first
of them says, all of them agree on it, and all who declare it are its owners. A service that does not
agree with those before it is reported with all of these that declare the resource group. -/
theorem GraphSource.sharedTargets (r : GraphSource) :
    (∀ g, r.Assembles g → g.RecordsDeclarations r.services r.pipelines) ∧
    ∀ owners newOwner recorded incoming,
      r.result = .error (.conflictingTargets owners newOwner recorded incoming) →
        ∃ earlier s later, r.services = earlier ++ s :: later ∧ s.serviceGroup = newOwner ∧
          newOwner ∉ earlier.map Service.serviceGroup ∧
          r.pipelines.DeclaresTarget s incoming ∧ ¬ recorded.agrees incoming ∧
          r.pipelines.AreOwners earlier incoming.name owners ∧ owners ≠ [] := by
  constructor
  · intro g h
    obtain ⟨a, ha, rfl⟩ := h.exists_assembly
    exact ((checks_assembly r).property a ha).recordsDeclarations
      (serviceObjections_eq_nil_of_assembly ha)
  · intro owners newOwner recorded incoming h
    rcases first_objection h with ⟨_, _, h⟩ | h
    · cases h
    rcases head?_objections_cases h with ⟨_, h⟩ | ⟨earlier, s, later, heq, hfit, h⟩
    · cases h
    obtain ⟨hnew, rfl, hdeclares, rfl, hrecorded, hagrees⟩ := conflict_of_head?_serviceObjections h
    obtain ⟨-, hsupplied, -⟩ := withEarlier_serviceObjections_eq_nil_iff.1 hfit
    have howners := Pipelines.areOwners_recordedOwners hsupplied incoming.name
    refine ⟨earlier, s, later, heq, rfl, hnew, hdeclares, hagrees, howners, ?_⟩
    obtain ⟨hname, _, s', _, rfl, hfirst, -⟩ := Pipelines.first_of_recordedTarget? hrecorded
    exact List.ne_nil_of_mem ((howners.mem_iff s'.serviceGroup).2
      ⟨s', by simp, rfl, recorded, hfirst, hname⟩)

namespace SmallRollout

def target (subscription : String) : ResourceGroupTarget := ⟨"rg", "rg", subscription, []⟩

/-- The last service that is put into the graph does not deploy to where the others do. -/
def strayPipelines : Pipelines where
  entries :=
    [("cluster", pipeline "cluster" []),
      ("dns", { serviceGroup := "dns", resourceGroups := [{ target := target "reserve" }] }),
      ("network", pipeline "network" [step "create" [], step "peer" [⟨"rg", "create"⟩]]),
      ("workload", pipeline "workload" [step "deploy" []])]
  increasing := by decide

theorem result_stray :
    (GraphSource.entrypoints topology entrypoints strayPipelines).result =
      .error (.conflictingTargets ["cluster", "network", "workload"] "dns" (target "subscription")
        (target "reserve")) := by
  cbv

end SmallRollout

theorem GraphSource.sharedTargets_in_small_rollout :
    (∃ g, (entrypoints SmallRollout.topology SmallRollout.entrypoints
        SmallRollout.pipelines).Assembles g ∧
      g.RecordsDeclarations (SmallRollout.topology.selected SmallRollout.entrypoints)
        SmallRollout.pipelines) ∧
    (entrypoints SmallRollout.topology SmallRollout.entrypoints SmallRollout.strayPipelines).result =
      .error (.conflictingTargets ["cluster", "network", "workload"] "dns"
        (SmallRollout.target "subscription") (SmallRollout.target "reserve")) ∧
    ∃ earlier s later,
      SmallRollout.topology.selected SmallRollout.entrypoints = earlier ++ s :: later ∧
        s.serviceGroup = "dns" ∧ SmallRollout.strayPipelines.AreOwners earlier "rg"
          ["cluster", "network", "workload"] := by
  obtain ⟨g, hg, _⟩ := SmallRollout.exists_graph
  have h : (entrypoints SmallRollout.topology SmallRollout.entrypoints
      SmallRollout.pipelines).Assembles g := .inl hg
  obtain ⟨earlier, s, later, heq, hs, -, -, -, howners, -⟩ :=
    (sharedTargets _).2 _ _ _ _ SmallRollout.result_stray
  exact ⟨⟨g, h, (sharedTargets _).1 g h⟩, SmallRollout.result_stray,
    earlier, s, later, heq, hs, howners⟩

end RolloutPlan
