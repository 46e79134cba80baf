import RolloutPlan.Proofs.Declarations

/-!
# What speaks against a rollout

The services that entrypoints select are looked at one after the other, and what is wrong with them is
listed in this order, without a graph under construction. The assembly reports the first entry of the
list.

* `serviceObjections`: what speaks against a service after some others.
* `Topology.objections`: what speaks against the sub-trees that entrypoints select.
* `Topology.Assemblable`: the services of these sub-trees fit together. `objections_eq_nil_iff`: then
  there are no objections. `Topology.head?_objections_cases`: otherwise some services fit together, and the
  next one is the first that something speaks against.
* `GraphError.IsMismatch`, `mem_serviceObjections_cases`, `Topology.mem_objections_cases`,
  `Pipeline.mem_objections_cases`: the kinds of objections. None of them comes with a graph.
* `Assembly.checks_record`, `Assembly.checks_addService`, `Assembly.checks_addEntrypoints`: recording a
  service, a sub-tree, and all sub-trees that are selected. `Assembly.assemblable_of_addEntrypoints`: the
  services of a graph fit together.
-/

namespace RolloutPlan

set_option autoImplicit false

/-! ## Objections -/

/-- The pipelines of some services. -/
def Pipelines.ofServices (pipelines : Pipelines) (l : List Service) : List Pipeline :=
  l.filterMap fun s => pipelines.lookup s.serviceGroup

/-- What is read off the services that have pipelines is read off the pipelines. -/
theorem Pipelines.flatMap_ofServices {β : Type} {pipelines : Pipelines} {f : Pipeline → List β}
    {h : Service → List β} : ∀ {l : List Service},
    (∀ s ∈ l, ∃ p, pipelines.lookup s.serviceGroup = some p ∧ h s = f p) →
      l.flatMap h = (pipelines.ofServices l).flatMap f
  | [], _ => rfl
  | s :: l, hl => by
    obtain ⟨p, hp, hs⟩ := hl s List.mem_cons_self
    have hrest := flatMap_ofServices fun s' hs' => hl s' (List.mem_cons_of_mem s hs')
    have hcons : pipelines.ofServices (s :: l) = p :: pipelines.ofServices l :=
      List.filterMap_cons_some hp
    rw [List.flatMap_cons, hcons, List.flatMap_cons, hs, hrest]

/-- What speaks against a service after some others. -/
def serviceObjections (pipelines : Pipelines) (earlier : List Service) (s : Service) :
    List GraphError :=
  objectIf (s.serviceGroup ∈ earlier.map Service.serviceGroup) (.duplicateService s.serviceGroup) ++
    match pipelines.lookup s.serviceGroup with
    | none => [.unknownPipeline s.serviceGroup]
    | some p =>
      objectIf (p.serviceGroup ≠ s.serviceGroup) (.otherServiceGroup s.serviceGroup p.serviceGroup) ++
        (p.objections ++ p.clashes (pipelines.ofServices earlier))

namespace Topology

/-- What speaks against the sub-tree of an entrypoint after those of some others. -/
def entrypointObjections (t : Topology) (pipelines : Pipelines) (earlier : List Entrypoint)
    (e : Entrypoint) : List GraphError :=
  match t.lookup? e.identifier with
  | none => [.unknownEntrypoint e.identifier ⟨e.identifier⟩]
  | some s => withEarlier (serviceObjections pipelines) (t.selected earlier) s.preorder

/-- Everything that speaks against the sub-trees that entrypoints select. -/
def objections (t : Topology) (pipelines : Pipelines) (entrypoints : List Entrypoint) :
    List GraphError :=
  withEarlier (t.entrypointObjections pipelines) [] entrypoints

/-- The sub-trees that entrypoints select are there and have no service in common, and the pipelines of
their services are there and fit together. -/
structure Assemblable (t : Topology) (entrypoints : List Entrypoint) (pipelines : Pipelines) :
    Prop where
  found : ∀ e ∈ entrypoints, (t.lookup? e.identifier).isSome
  distinct : ((t.selected entrypoints).map Service.serviceGroup).Nodup
  supplied : ∀ s ∈ t.selected entrypoints, ∃ p, pipelines.lookup s.serviceGroup = some p ∧
    p.serviceGroup = s.serviceGroup
  coherent : ∀ p ∈ pipelines.ofServices (t.selected entrypoints), p.Coherent
  agreeing : ∀ p ∈ pipelines.ofServices (t.selected entrypoints),
    ∀ q ∈ pipelines.ofServices (t.selected entrypoints), p.AgreesWith q
  one_request :
    ((pipelines.ofServices (t.selected entrypoints)).flatMap Pipeline.requests).length ≤ 1

end Topology

/-! ## Kinds of objections -/

/-- Pipelines are not there, or do not fit together. -/
def GraphError.IsMismatch : GraphError → Prop
  | .unknownPipeline _ => True
  | .otherServiceGroup .. => True
  | .severalSubscriptions _ => True
  | .conflictingTargets .. => True
  | .duplicateSubscription .. => True
  | _ => False

theorem isMismatch_of_mem_targetObjections {owners : List String} {group : String}
    {recorded : Option ResourceGroupTarget} {target : ResourceGroupTarget} {e : GraphError}
    (h : e ∈ targetObjections owners group recorded target) : e.IsMismatch := by
  cases recorded with
  | none => cases h
  | some r =>
    obtain ⟨-, rfl⟩ := mem_objectIf.1 h
    trivial

theorem isMismatch_of_mem_subscriptionObjections {recorded incoming : Option Subscription}
    {e : GraphError} (h : e ∈ subscriptionObjections recorded incoming) : e.IsMismatch := by
  unfold subscriptionObjections at h
  split at h
  · obtain rfl := List.mem_singleton.1 h
    trivial
  · cases h

theorem isMismatch_of_mem_clashes {earlier : List Pipeline} {p : Pipeline} {e : GraphError}
    (h : e ∈ p.clashes earlier) : e.IsMismatch := by
  rcases List.mem_append.1 h with h | h
  · obtain ⟨_, -, h⟩ := List.mem_flatMap.1 h
    exact isMismatch_of_mem_targetObjections h
  · exact isMismatch_of_mem_subscriptionObjections h

/-- A service is there already, or its pipeline does not fit or is wrong on its own. -/
theorem mem_serviceObjections_cases {pipelines : Pipelines} {earlier : List Service} {s : Service}
    {e : GraphError} (h : e ∈ serviceObjections pipelines earlier s) :
    e = .duplicateService s.serviceGroup ∧ s.serviceGroup ∈ earlier.map Service.serviceGroup ∨
      e.IsMismatch ∨ ∃ p, pipelines.lookup s.serviceGroup = some p ∧ e ∈ p.objections := by
  rcases List.mem_append.1 h with h | h
  · obtain ⟨hs, rfl⟩ := mem_objectIf.1 h
    exact .inl ⟨rfl, hs⟩
  refine .inr ?_
  cases hp : pipelines.lookup s.serviceGroup with
  | none =>
    rw [hp] at h
    obtain rfl := List.mem_singleton.1 h
    exact .inl trivial
  | some p =>
    simp only [hp] at h
    rcases List.mem_append.1 h with h | h
    · obtain ⟨-, rfl⟩ := mem_objectIf.1 h
      exact .inl trivial
    rcases List.mem_append.1 h with h | h
    · exact .inr ⟨p, rfl, h⟩
    · exact .inl (isMismatch_of_mem_clashes h)

/-- An entrypoint is not found, or something speaks against a service of its sub-tree. -/
theorem Topology.mem_objections_cases {t : Topology} {pipelines : Pipelines}
    {entrypoints : List Entrypoint} {e : GraphError} (h : e ∈ t.objections pipelines entrypoints) :
    (∃ d ∈ entrypoints, t.lookup? d.identifier = none ∧
        e = .unknownEntrypoint d.identifier ⟨d.identifier⟩) ∨
      ∃ l₁ d l₂ s, entrypoints = l₁ ++ d :: l₂ ∧ t.lookup? d.identifier = some s ∧
        ∃ m₁ x m₂, s.preorder = m₁ ++ x :: m₂ ∧
          e ∈ serviceObjections pipelines (t.selected l₁ ++ m₁) x := by
  obtain ⟨l₁, d, l₂, heq, h⟩ := mem_withEarlier.1 h
  unfold entrypointObjections at h
  cases hd : t.lookup? d.identifier with
  | none =>
    rw [hd] at h
    exact .inl ⟨d, by simp [heq], hd, List.mem_singleton.1 h⟩
  | some s =>
    simp only [hd, List.nil_append] at h
    exact .inr ⟨l₁, d, l₂, s, heq, hd, mem_withEarlier.1 h⟩

/-! ### Objections without a graph -/

theorem GraphError.IsMismatch.graph?_eq_none {e : GraphError} (h : e.IsMismatch) :
    e.graph? = none := by
  cases e <;> first | rfl | exact h.elim

/-- What is wrong with a pipeline on its own: a name is used twice, several subscriptions are asked for,
or a dependency is not declared. -/
theorem Pipeline.mem_objections_cases {p : Pipeline} {e : GraphError} (h : e ∈ p.objections) :
    (∃ name, e = .duplicateResourceGroup p.serviceGroup name) ∨
      e = .severalSubscriptions p.serviceGroup ∨
      (∃ step, e = .duplicateStep p.serviceGroup step) ∨
      ∃ step r, e = .unknownDependency p.serviceGroup step r := by
  rcases List.mem_append.1 h with h | h
  · obtain ⟨_, g, _, -, h⟩ := mem_withEarlier.1 h
    simp only [Inventory.groupObjections, List.mem_append, mem_objectIf, mem_withEarlier] at h
    rcases h with ⟨-, rfl⟩ | ⟨-, rfl⟩ | ⟨_, s, _, -, h⟩
    · exact .inl ⟨_, rfl⟩
    · exact .inr (.inl rfl)
    · obtain ⟨-, rfl⟩ := mem_objectIf.1 h
      exact .inr (.inr (.inl ⟨_, rfl⟩))
  · obtain ⟨d, -, h⟩ := List.mem_flatMap.1 h
    obtain ⟨r, -, rfl⟩ := List.mem_map.1 h
    exact .inr (.inr (.inr ⟨_, _, rfl⟩))

theorem Pipeline.graph?_eq_none_of_mem_objections {p : Pipeline} {e : GraphError}
    (h : e ∈ p.objections) : e.graph? = none := by
  rcases p.mem_objections_cases h with ⟨_, rfl⟩ | rfl | ⟨_, rfl⟩ | ⟨_, _, rfl⟩ <;> rfl

theorem graph?_eq_none_of_mem_serviceObjections {pipelines : Pipelines} {earlier : List Service}
    {s : Service} {e : GraphError} (h : e ∈ serviceObjections pipelines earlier s) :
    e.graph? = none := by
  rcases mem_serviceObjections_cases h with ⟨rfl, -⟩ | h | ⟨p, -, h⟩
  · rfl
  · exact h.graph?_eq_none
  · exact Pipeline.graph?_eq_none_of_mem_objections h

theorem Topology.graph?_eq_none_of_mem_objections {t : Topology} {pipelines : Pipelines}
    {entrypoints : List Entrypoint} {e : GraphError} (h : e ∈ t.objections pipelines entrypoints) :
    e.graph? = none := by
  rcases mem_objections_cases h with ⟨d, -, -, rfl⟩ | ⟨_, _, _, _, -, -, _, _, _, -, h⟩
  · rfl
  · exact graph?_eq_none_of_mem_serviceObjections h

/-! ## Nothing to object to -/

theorem serviceObjections_eq_nil_iff {pipelines : Pipelines} {earlier : List Service} {s : Service} :
    serviceObjections pipelines earlier s = [] ↔
      s.serviceGroup ∉ earlier.map Service.serviceGroup ∧
        ∃ p, pipelines.lookup s.serviceGroup = some p ∧ p.serviceGroup = s.serviceGroup ∧
          p.Coherent ∧ p.clashes (pipelines.ofServices earlier) = [] := by
  rw [serviceObjections, List.append_eq_nil_iff, objectIf_eq_nil_iff]
  refine and_congr_right fun _ => ?_
  cases pipelines.lookup s.serviceGroup with
  | none => simp
  | some p =>
    simp [List.append_eq_nil_iff, p.objections_eq_nil_iff]

/-- The pipelines before a service are those of the services before it. -/
theorem forall_ofServices_split {pipelines : Pipelines} {l : List Service}
    {P : List Pipeline → Pipeline → Prop} :
    (∀ ps p qs, pipelines.ofServices l = ps ++ p :: qs → P ps p) ↔
      ∀ l₁ s l₂, l = l₁ ++ s :: l₂ → ∀ p, pipelines.lookup s.serviceGroup = some p →
        P (pipelines.ofServices l₁) p := by
  constructor
  · rintro h l₁ s l₂ rfl p hp
    refine h _ p (pipelines.ofServices l₂) ?_
    simp [Pipelines.ofServices, hp]
  · intro h ps p qs heq
    obtain ⟨l₁, l₂, rfl, rfl, hrest⟩ := List.filterMap_eq_append_iff.1 heq
    obtain ⟨l₃, s, l₄, rfl, hnone, hp, -⟩ := List.filterMap_eq_cons_iff.1 hrest
    have hl₃ : pipelines.ofServices (l₁ ++ l₃) = pipelines.ofServices l₁ := by
      rw [Pipelines.ofServices, List.filterMap_append, List.filterMap_eq_nil_iff.2 hnone,
        List.append_nil]
      rfl
    have := h (l₁ ++ l₃) s l₄ (by simp) p hp
    rwa [hl₃] at this

theorem withEarlier_serviceObjections_eq_nil_iff {pipelines : Pipelines} {l : List Service} :
    withEarlier (serviceObjections pipelines) [] l = [] ↔
      (l.map Service.serviceGroup).Nodup ∧
        (∀ s ∈ l, ∃ p, pipelines.lookup s.serviceGroup = some p ∧
          p.serviceGroup = s.serviceGroup) ∧
        (∀ p ∈ pipelines.ofServices l, p.Coherent) ∧
        (∀ p ∈ pipelines.ofServices l, ∀ q ∈ pipelines.ofServices l, p.AgreesWith q) ∧
        ((pipelines.ofServices l).flatMap Pipeline.requests).length ≤ 1 := by
  simp only [withEarlier_eq_nil_iff, List.nil_append, serviceObjections_eq_nil_iff]
  constructor
  · intro h
    have hcoherent : ∀ p ∈ pipelines.ofServices l, p.Coherent := by
      intro p hp
      obtain ⟨s, hs, hlookup⟩ := List.mem_filterMap.1 hp
      obtain ⟨l₁, l₂, heq⟩ := List.append_of_mem hs
      obtain ⟨-, q, hq, -, hcoherent, -⟩ := h l₁ s l₂ heq
      obtain rfl := Option.some.inj (hlookup.symm.trans hq)
      exact hcoherent
    refine ⟨nodup_map_iff.2 fun l₁ s l₂ heq => (h l₁ s l₂ heq).1, ?_, hcoherent,
      (clashes_eq_nil_iff hcoherent).1 (forall_ofServices_split.2 ?_)⟩
    · intro s hs
      obtain ⟨l₁, l₂, rfl⟩ := List.append_of_mem hs
      obtain ⟨-, p, hp, hgroup, -⟩ := h l₁ s l₂ rfl
      exact ⟨p, hp, hgroup⟩
    · intro l₁ s l₂ heq p hp
      obtain ⟨-, q, hq, -, -, hclashes⟩ := h l₁ s l₂ heq
      obtain rfl := Option.some.inj (hp.symm.trans hq)
      exact hclashes
  · rintro ⟨hdistinct, hsupplied, hcoherent, hagree⟩ l₁ s l₂ heq
    have hs : s ∈ l := by simp [heq]
    obtain ⟨p, hp, hgroup⟩ := hsupplied s hs
    exact ⟨nodup_map_iff.1 hdistinct l₁ s l₂ heq, p, hp, hgroup,
      hcoherent p (List.mem_filterMap.2 ⟨s, hs, hp⟩),
      forall_ofServices_split.1 ((clashes_eq_nil_iff hcoherent).2 hagree) l₁ s l₂ heq p hp⟩

namespace Topology

@[simp] theorem selected_append (t : Topology) (l m : List Entrypoint) :
    t.selected (l ++ m) = t.selected l ++ t.selected m := List.flatMap_append

/-- When all entrypoints are found, their sub-trees are looked at like one list of services. -/
theorem withEarlier_entrypointObjections {t : Topology} {pipelines : Pipelines} :
    ∀ {l earlier : List Entrypoint}, (∀ e ∈ l, (t.lookup? e.identifier).isSome) →
      withEarlier (t.entrypointObjections pipelines) earlier l =
        withEarlier (serviceObjections pipelines) (t.selected earlier) (t.selected l)
  | [], _, _ => rfl
  | e :: l, earlier, h => by
    obtain ⟨s, hs⟩ := Option.isSome_iff_exists.1 (h e List.mem_cons_self)
    have hone : t.selected [e] = s.preorder := by simp [selected, hs]
    have hcons : t.selected (e :: l) = s.preorder ++ t.selected l :=
      (t.selected_append [e] l).trans (congrArg (· ++ t.selected l) hone)
    rw [withEarlier, withEarlier_entrypointObjections fun e he => h e (List.mem_cons_of_mem _ he),
      selected_append, hone, hcons, withEarlier_append, entrypointObjections, hs]

/-- The services of entrypoints that fit together have nothing said against them. -/
theorem Assemblable.serviceObjections_eq_nil {t : Topology} {pipelines : Pipelines}
    {entrypoints : List Entrypoint} (h : t.Assemblable entrypoints pipelines) :
    withEarlier (serviceObjections pipelines) [] (t.selected entrypoints) = [] :=
  withEarlier_serviceObjections_eq_nil_iff.2
    ⟨h.distinct, h.supplied, h.coherent, h.agreeing, h.one_request⟩

theorem objections_eq_nil_iff {t : Topology} {pipelines : Pipelines}
    {entrypoints : List Entrypoint} :
    t.objections pipelines entrypoints = [] ↔ t.Assemblable entrypoints pipelines := by
  constructor
  · intro h
    have hfound : ∀ e ∈ entrypoints, (t.lookup? e.identifier).isSome := by
      intro e he
      obtain ⟨l₁, l₂, rfl⟩ := List.append_of_mem he
      have hnone := withEarlier_eq_nil_iff.1 h l₁ e l₂ rfl
      unfold entrypointObjections at hnone
      split at hnone
      · cases hnone
      · simp [*]
    rw [objections, withEarlier_entrypointObjections hfound] at h
    obtain ⟨hdistinct, hsupplied, hcoherent, hagree, hone⟩ :=
      withEarlier_serviceObjections_eq_nil_iff.1 h
    exact ⟨hfound, hdistinct, hsupplied, hcoherent, hagree, hone⟩
  · intro h
    rw [objections, withEarlier_entrypointObjections h.found]
    exact h.serviceObjections_eq_nil

/-- The first objection to entrypoints is that one of them is not found, or it is the first one to a
service after services that fit together. -/
theorem head?_objections_cases {t : Topology} {pipelines : Pipelines} {entrypoints : List Entrypoint}
    {e : GraphError} (h : (t.objections pipelines entrypoints).head? = some e) :
    (∃ identifier, e = .unknownEntrypoint identifier ⟨identifier⟩) ∨
      ∃ earlier s later, t.selected entrypoints = earlier ++ s :: later ∧
        withEarlier (serviceObjections pipelines) [] earlier = [] ∧
        (serviceObjections pipelines earlier s).head? = some e := by
  obtain ⟨l₁, d, l₂, rfl, hnone, h⟩ := head?_withEarlier_eq_some h
  unfold entrypointObjections at h
  cases hd : t.lookup? d.identifier with
  | none =>
    rw [hd] at h
    exact .inl ⟨d.identifier, (Option.some.inj h).symm⟩
  | some root =>
    simp only [hd, List.nil_append] at h
    obtain ⟨m₁, s, m₂, hroot, hbefore, h⟩ := head?_withEarlier_eq_some h
    have hselected : t.selected (l₁ ++ d :: l₂) = t.selected l₁ ++ (root.preorder ++ t.selected l₂) := by
      simp [selected, hd]
    refine .inr ⟨t.selected l₁ ++ m₁, s, m₂ ++ t.selected l₂, ?_, ?_, h⟩
    · rw [hselected, hroot]
      simp
    · rw [withEarlier_append, (objections_eq_nil_iff.1 hnone).serviceObjections_eq_nil,
        List.nil_append, List.nil_append, hbefore]

end Topology

/-! ## The assembly -/

namespace Assembly

/-- A service is recorded unless something speaks against it. -/
theorem checks_record {pipelines : Pipelines} {above : List String} {V W : List Visit}
    {a : Assembly} (h : Underway pipelines above V W a)
    (ha : a.graph.Records (pipelines.ofServices (V.map Visit.service))) (s : Service) :
    Checks (a.record pipelines s) (serviceObjections pipelines (V.map Visit.service) s)
      fun a' => a'.graph.Records (pipelines.ofServices (V.map Visit.service ++ [s])) := by
  have hknown : (a.graph.services.lookup s.serviceGroup).isSome ↔
      s.serviceGroup ∈ (V.map Visit.service).map Service.serviceGroup := by
    rw [SortedMap.isSome_lookup_iff, h.assembled.services, List.map_map]
    rfl
  unfold record serviceObjections
  simp only [hknown]
  refine .guard fun _ => ?_
  unfold pipelineOf
  cases hp : pipelines.lookup s.serviceGroup with
  | none => exact .error _ _
  | some p =>
    by_cases hgroup : p.serviceGroup = s.serviceGroup
    · simp only [objectIf, hgroup, ne_eq, not_true_eq_false, if_true, if_false, List.nil_append]
      have hcontribution := p.checks_contribution.and_property (Q := fun _ => p.Coherent)
        fun c hc => p.contributes_iff.1 ⟨c, hc⟩
      refine hcontribution.bind ?_
      rintro c ⟨hcoherent, hlists⟩
      have hps : pipelines.ofServices (V.map Visit.service ++ [s]) =
          pipelines.ofServices (V.map Visit.service) ++ [p] := by
        simp [Pipelines.ofServices, hp]
      rw [hps, ← hgroup]
      exact checks_addContribution ⟨ha.target, ha.owners, ha.subscription⟩ hlists
        hcoherent.distinct_groups
    · simp only [objectIf, hgroup, ne_eq, not_false_eq_true, if_true, if_false]
      exact .error _ _

mutual
/-- A sub-tree is added unless something speaks against one of its services. -/
theorem checks_addService {pipelines : Pipelines} {above : List String} {V W : List Visit}
    {a : Assembly} (h : Underway pipelines above V W a)
    (ha : a.graph.Records (pipelines.ofServices (V.map Visit.service))) : ∀ s : Service,
    Checks (addService pipelines a s)
      (withEarlier (serviceObjections pipelines) (V.map Visit.service) s.preorder)
      fun a' => a'.graph.Records (pipelines.ofServices (V.map Visit.service ++ s.preorder))
  | ⟨group, purpose, path, children, metadata⟩ => by
    have hrecord := (checks_record h ha ⟨group, purpose, path, children, metadata⟩).and_property
      fun a₁ ha₁ => h.record ha₁
    rw [addService, Service.preorder, withEarlier, List.append_cons]
    refine hrecord.bind ?_
    rintro a₁ ⟨h₁, hrecords⟩
    have hchildren := checks_addChildren h₁ (by simpa using hrecords) h₁.leaves_eq children
    simpa using hchildren
theorem checks_addChildren {pipelines : Pipelines} {p : String} {ancestors : List String}
    {V W : List Visit} {a : Assembly} {leaves : List Identifier}
    (h : Underway pipelines (p :: ancestors) V W a)
    (ha : a.graph.Records (pipelines.ofServices (V.map Visit.service)))
    (hleaves : leaves = frontier (blockOf pipelines) V (p :: ancestors)) : ∀ l : List Service,
    Checks (addChildren pipelines leaves a l)
      (withEarlier (serviceObjections pipelines) (V.map Visit.service) (Service.preorderAll l))
      fun a' => a'.graph.Records
        (pipelines.ofServices (V.map Visit.service ++ Service.preorderAll l))
  | [] => .ok (by simpa [Service.preorderAll] using ha)
  | s :: l => by
    have hservice := (checks_addService h ha s).and_property
      fun a₁ ha₁ => addService_underway h ha₁
    rw [addChildren, Service.preorderAll, withEarlier_append, ← List.append_assoc]
    refine hservice.bind ?_
    rintro a₁ ⟨h₁, hrecords⟩
    -- Linking has nothing to object to and changes nodes only.
    obtain ⟨hfrontier, nodes, hlink, h₂⟩ := h.join_child h₁
    rw [hleaves, hlink]
    have hV : (V ++ s.visits (p :: ancestors)).map Visit.service =
        V.map Visit.service ++ s.preorder := by
      rw [List.map_append, s.visits_services]
    have hrest := checks_addChildren h₂
      (by
        rw [hV]
        exact ⟨hrecords.target, hrecords.owners, hrecords.subscription⟩)
      hfrontier.symm l
    rwa [hV] at hrest
end

/-- The sub-trees that entrypoints select are added unless something speaks against them. -/
theorem checks_addEntrypoints (pipelines : Pipelines) (t : Topology)
    (entrypoints : List Entrypoint) :
    Checks (addEntrypoints pipelines t {} entrypoints) (t.objections pipelines entrypoints)
      fun a => a.graph.Records (pipelines.ofServices (t.selected entrypoints)) := by
  have hstart : Underway pipelines [] (t.visits []) (t.joins []) {} ∧
      ({} : Assembly).graph.Records (pipelines.ofServices (t.selected [])) :=
    ⟨underway_empty pipelines, fun _ => rfl, fun _ => rfl, rfl⟩
  refine (Checks.run
    (fun earlier a => Underway pipelines [] (t.visits earlier) (t.joins earlier) a ∧
      a.graph.Records (pipelines.ofServices (t.selected earlier)))
    (fun a e => addEntrypoints pipelines t a [e]) (fun _ => rfl) ?_ ?_ hstart).mono fun _ h => h.2
  · intro a e l
    rw [addEntrypoints, addEntrypoints]
    cases t.lookup e.identifier with
    | error cause => rfl
    | ok s =>
      change (addService pipelines a s >>= fun a' => addEntrypoints pipelines t a' l) =
        (addService pipelines a s >>= fun a' => addEntrypoints pipelines t a' []) >>= fun a' =>
          addEntrypoints pipelines t a' l
      cases addService pipelines a s <;> rfl
  · rintro earlier a e ⟨h, ha⟩
    rw [addEntrypoints, Topology.lookup, Topology.entrypointObjections]
    cases hs : t.lookup? e.identifier with
    | none => exact .error _ _
    | some s =>
      rw [← t.visits_services] at ha
      have hservice := (checks_addService h ha s).and_property
        fun a' ha' => addService_underway_root h ha'
      rw [t.visits_services] at hservice
      refine hservice.bind_ok ?_
      rintro a' ⟨hunderway, hrecords⟩
      refine .ok ⟨?_, ?_⟩
      · simpa [Topology.visits, Topology.joins, hs] using hunderway
      · simpa [Topology.selected, hs] using hrecords

/-- The services of a graph fit together. -/
theorem assemblable_of_addEntrypoints {pipelines : Pipelines} {t : Topology}
    {entrypoints : List Entrypoint} {a : Assembly}
    (h : addEntrypoints pipelines t {} entrypoints = .ok a) : t.Assemblable entrypoints pipelines :=
  Topology.objections_eq_nil_iff.1
    ((checks_addEntrypoints pipelines t entrypoints).exists_ok_iff.1 ⟨a, h⟩)

/-- What fails in putting a graph together has no graph to show: a cycle is found by the search alone. -/
theorem graph?_eq_none_of_addEntrypoints {pipelines : Pipelines} {t : Topology}
    {entrypoints : List Entrypoint} {e : GraphError}
    (h : addEntrypoints pipelines t {} entrypoints = .error e) : e.graph? = none :=
  Topology.graph?_eq_none_of_mem_objections
    ((checks_addEntrypoints pipelines t entrypoints).mem_of_error h)

theorem graph?_eq_none_of_addService {pipelines : Pipelines} {s : Service} {e : GraphError}
    (h : addService pipelines {} s = .error e) : e.graph? = none := by
  have hchecks := checks_addService (underway_empty pipelines)
    ⟨fun _ => rfl, fun _ => rfl, rfl⟩ s
  obtain ⟨_, _, _, -, he⟩ := mem_withEarlier.1 (hchecks.mem_of_error h)
  exact graph?_eq_none_of_mem_serviceObjections he

end Assembly

end RolloutPlan
