import RolloutPlan.Proofs.Assembly
import RolloutPlan.Proofs.PipelineObjections

/-!
# What a graph records of declarations

A graph under construction keeps what the pipelines so far have said about resource groups and
subscriptions, and a further pipeline is held against it. What is recorded, and what speaks against the
further pipeline, is read off the declarations.

* `ResourceGroupTarget.agrees_iff`: targets agree when their normal forms are the same, so that agreement
  is an equivalence.
* `recordedTarget?`, `recordedOwners`: the first target of a resource group, and who declares it.
* `Graph.Records`: a graph has recorded some pipelines.
* `Pipeline.clashes`: what speaks against a pipeline after some others. `clashes_eq_nil_iff`: nothing
  does when all of them agree pairwise and make one request for a subscription at most.
* `Assembly.checks_addTargets`, `Assembly.checks_addSubscription`, `Assembly.checks_addContribution`.
-/

namespace RolloutPlan

set_option autoImplicit false

/-! ## Agreement -/

/-- A constraint with its sets in increasing order. -/
def ExecutionConstraint.normal (c : ExecutionConstraint) : ExecutionConstraint where
  singleton := c.singleton
  clouds := Sorted.ofList c.clouds
  environments := Sorted.ofList c.environments
  regions := Sorted.ofList c.regions

theorem ExecutionConstraint.agrees_iff {a b : ExecutionConstraint} :
    a.agrees b ↔ a.normal = b.normal := by
  simp [agrees, normal, and_assoc]

namespace ResourceGroupTarget

/-- A target with constraints in normal form. -/
def normal (t : ResourceGroupTarget) : ResourceGroupTarget :=
  { t with executionConstraints := t.executionConstraints.map ExecutionConstraint.normal }

theorem map_normal_eq_iff : ∀ {l m : List ExecutionConstraint},
    l.map ExecutionConstraint.normal = m.map ExecutionConstraint.normal ↔
      l.length = m.length ∧ ∀ e ∈ l.zip m, e.1.agrees e.2
  | [], [] => by simp
  | [], _ :: _ => by simp
  | _ :: _, [] => by simp
  | a :: l, b :: m => by
    rw [List.map_cons, List.map_cons, List.cons.injEq, map_normal_eq_iff,
      ← ExecutionConstraint.agrees_iff, List.zip_cons_cons, List.forall_mem_cons, List.length_cons,
      List.length_cons, Nat.add_right_cancel_iff]
    tauto

theorem agrees_iff {a b : ResourceGroupTarget} : a.agrees b ↔ a.normal = b.normal := by
  obtain ⟨name, group, subscription, constraints⟩ := a
  obtain ⟨name', group', subscription', constraints'⟩ := b
  simp only [agrees, normal, ResourceGroupTarget.mk.injEq, map_normal_eq_iff, Bool.and_eq_true,
    decide_eq_true_eq, List.all_eq_true, and_assoc]

end ResourceGroupTarget

/-! ## Declarations of several pipelines -/

/-- Where the resource groups of a pipeline deploy to. -/
def Pipeline.targets (p : Pipeline) : List (String × ResourceGroupTarget) :=
  p.resourceGroups.map fun g => (g.name, g.target)

theorem Pipeline.keys_targets (p : Pipeline) :
    p.targets.map Prod.fst = p.resourceGroups.map ResourceGroup.name := by
  rw [targets, List.map_map]
  rfl

/-- The first of some pipelines that declares a resource group says where it deploys to. -/
def recordedTarget? (ps : List Pipeline) (name : String) : Option ResourceGroupTarget :=
  ps.findSome? fun p => p.targets.lookup name

/-- The service groups of the pipelines that declare a resource group, in increasing order. -/
def recordedOwners (ps : List Pipeline) (name : String) : List String :=
  Sorted.ofList ((ps.filter fun p => name ∈ p.targets.map Prod.fst).map Pipeline.serviceGroup)

theorem recordedTarget?_concat (ps : List Pipeline) (p : Pipeline) (name : String) :
    recordedTarget? (ps ++ [p]) name = (recordedTarget? ps name).or (p.targets.lookup name) := by
  simp [recordedTarget?, List.findSome?_append]

theorem recordedOwners_concat (ps : List Pipeline) (p : Pipeline) (name : String) :
    recordedOwners (ps ++ [p]) name = if name ∈ p.targets.map Prod.fst then
      Sorted.insert p.serviceGroup (recordedOwners ps name) else recordedOwners ps name := by
  unfold recordedOwners
  rw [List.filter_append, List.map_append, List.filter_singleton]
  split_ifs with h
  · simp [h, Sorted.ofList_concat]
  · simp [h]

theorem mem_recordedOwners {ps : List Pipeline} {name group : String} :
    group ∈ recordedOwners ps name ↔
      ∃ p ∈ ps, name ∈ p.targets.map Prod.fst ∧ p.serviceGroup = group := by
  unfold recordedOwners
  rw [Sorted.mem_ofList]
  simp only [List.mem_map, List.mem_filter, decide_eq_true_eq, and_assoc]

/-- A graph has recorded the resource groups and subscriptions of some pipelines. -/
structure Graph.Records (g : Graph) (ps : List Pipeline) : Prop where
  target : ∀ name, g.resourceGroups.lookup name = recordedTarget? ps name
  owners : ∀ name, g.ownersOf name = recordedOwners ps name
  subscription : g.subscription = (ps.flatMap Pipeline.requests).head?

/-! ## What speaks against a pipeline after some others -/

/-- What speaks against a target of a service when another target is recorded already. -/
def targetObjections (owners : List String) (serviceGroup : String)
    (recorded : Option ResourceGroupTarget) (target : ResourceGroupTarget) : List GraphError :=
  match recorded with
  | none => []
  | some r => objectIf (¬ r.agrees target) (.conflictingTargets owners serviceGroup r target)

/-- What speaks against a request for a subscription when another one is recorded already. -/
def subscriptionObjections : Option Subscription → Option Subscription → List GraphError
  | some recorded, some incoming => [.duplicateSubscription recorded incoming]
  | _, _ => []

/-- What speaks against a pipeline after some others: first its resource groups, in increasing order of
their names, and then its request for a subscription. -/
def Pipeline.clashes (earlier : List Pipeline) (p : Pipeline) : List GraphError :=
  (Sorted.ofPairs p.targets).entries.flatMap (fun e =>
      targetObjections (recordedOwners earlier e.1) p.serviceGroup (recordedTarget? earlier e.1) e.2) ++
    subscriptionObjections (earlier.flatMap Pipeline.requests).head? p.requests.head?

theorem targetObjections_eq_nil_iff {owners : List String} {serviceGroup : String}
    {recorded : Option ResourceGroupTarget} {target : ResourceGroupTarget} :
    targetObjections owners serviceGroup recorded target = [] ↔
      ∀ r, recorded = some r → r.agrees target := by
  cases recorded with
  | none => simp [targetObjections]
  | some r => simp [targetObjections]

theorem subscriptionObjections_eq_nil_iff {l m : List Subscription} :
    subscriptionObjections l.head? m.head? = [] ↔ m = [] ∨ l = [] := by
  cases l <;> cases m <;> simp [subscriptionObjections]

/-! ## Pipelines that agree with each other -/

/-- Two pipelines agree on every resource group that both of them declare. -/
def Pipeline.AgreesWith (p q : Pipeline) : Prop :=
  ∀ g ∈ p.resourceGroups, ∀ h ∈ q.resourceGroups, g.name = h.name → g.target.agrees h.target

theorem Pipeline.lookup_targets_eq_some_iff {p : Pipeline}
    (h : (p.resourceGroups.map ResourceGroup.name).Nodup) {name : String}
    {target : ResourceGroupTarget} : p.targets.lookup name = some target ↔
      ∃ g ∈ p.resourceGroups, g.name = name ∧ g.target = target := by
  rw [← p.keys_targets] at h
  rw [Sorted.lookup_eq_some_iff_mem h, targets, List.mem_map]
  simp

theorem Pipeline.agreesWith_iff {p q : Pipeline}
    (hp : (p.resourceGroups.map ResourceGroup.name).Nodup)
    (hq : (q.resourceGroups.map ResourceGroup.name).Nodup) : p.AgreesWith q ↔
      ∀ name x y, p.targets.lookup name = some x → q.targets.lookup name = some y →
        x.normal = y.normal := by
  simp only [AgreesWith, ResourceGroupTarget.agrees_iff, lookup_targets_eq_some_iff hp,
    lookup_targets_eq_some_iff hq]
  constructor
  · rintro h name _ _ ⟨g, hg, rfl, rfl⟩ ⟨g', hg', hname, rfl⟩
    exact h g hg g' hg' hname.symm
  · intro h g hg g' hg' hname
    exact h g.name _ _ ⟨g, hg, rfl, rfl⟩ ⟨g', hg', hname.symm, rfl⟩

/-- What comes later is compared with what came first only, and still all are the same. -/
theorem forall_findSome?_iff {α β κ : Type} {f : α → Option β} {key : β → κ} {l : List α} :
    (∀ l₁ a l₂, l = l₁ ++ a :: l₂ → ∀ x y, l₁.findSome? f = some x → f a = some y →
        key x = key y) ↔
      ∀ a ∈ l, ∀ b ∈ l, ∀ x y, f a = some x → f b = some y → key x = key y := by
  constructor
  · intro h
    have hfirst : ∀ a ∈ l, ∀ x, f a = some x → ∃ r, l.findSome? f = some r ∧ key r = key x := by
      induction l using List.reverseRecOn with
      | nil => simp
      | append_singleton l b ih =>
        have hl := ih fun l₁ a l₂ heq => h l₁ a (l₂ ++ [b]) (by simp [heq])
        intro a ha x hx
        rw [List.findSome?_append]
        rcases List.mem_append.1 ha with ha | ha
        · obtain ⟨r, hr, hkey⟩ := hl a ha x hx
          exact ⟨r, by rw [hr, Option.some_or], hkey⟩
        · rw [List.mem_singleton.1 ha] at hx
          cases hr : l.findSome? f with
          | none => exact ⟨x, by simp [hx], rfl⟩
          | some r => exact ⟨r, rfl, h l b [] rfl r x hr hx⟩
    intro a ha b hb x y hx hy
    obtain ⟨r, hr, hrx⟩ := hfirst a ha x hx
    obtain ⟨r', hr', hry⟩ := hfirst b hb y hy
    obtain rfl := Option.some.inj (hr.symm.trans hr')
    exact hrx.symm.trans hry
  · rintro h l₁ a l₂ rfl x y hx hy
    obtain ⟨b, hb, hx⟩ := List.exists_of_findSome?_eq_some hx
    exact h b (by simp [hb]) a (by simp) x y hx hy

theorem Pipeline.clashes_eq_nil_iff_lookup (ps : List Pipeline) {p : Pipeline}
    (hp : (p.resourceGroups.map ResourceGroup.name).Nodup) : p.clashes ps = [] ↔
      (∀ name x y, recordedTarget? ps name = some x → p.targets.lookup name = some y →
        x.normal = y.normal) ∧ (p.requests = [] ∨ ps.flatMap Pipeline.requests = []) := by
  rw [← p.keys_targets] at hp
  have hmem : ∀ e, e ∈ (Sorted.ofPairs p.targets).entries ↔ p.targets.lookup e.1 = some e.2 := by
    intro e
    rw [(Sorted.ofPairs_perm hp).mem_iff, Sorted.lookup_eq_some_iff_mem hp]
  rw [clashes, List.append_eq_nil_iff, subscriptionObjections_eq_nil_iff, List.flatMap_eq_nil_iff]
  simp only [hmem, targetObjections_eq_nil_iff, ResourceGroupTarget.agrees_iff]
  refine and_congr_left fun _ => ?_
  constructor
  · intro h name x y hx hy
    exact h (name, y) hy x hx
  · rintro h ⟨name, y⟩ hy x hx
    exact h name x y hx hy

/-- Nothing speaks against any of some coherent pipelines after those before it when all of them agree
with each other and make one request for a subscription at most. -/
theorem clashes_eq_nil_iff {ps : List Pipeline} (h : ∀ p ∈ ps, p.Coherent) :
    (∀ l₁ p l₂, ps = l₁ ++ p :: l₂ → p.clashes l₁ = []) ↔
      (∀ p ∈ ps, ∀ q ∈ ps, p.AgreesWith q) ∧ (ps.flatMap Pipeline.requests).length ≤ 1 := by
  have hagree : (∀ p ∈ ps, ∀ q ∈ ps, p.AgreesWith q) ↔ ∀ name, ∀ p ∈ ps, ∀ q ∈ ps, ∀ x y,
      p.targets.lookup name = some x → q.targets.lookup name = some y → x.normal = y.normal := by
    constructor
    · intro hall name p hp q hq
      exact (Pipeline.agreesWith_iff (h p hp).distinct_groups (h q hq).distinct_groups).1
        (hall p hp q hq) name
    · intro hall p hp q hq
      exact (Pipeline.agreesWith_iff (h p hp).distinct_groups (h q hq).distinct_groups).2
        fun name => hall name p hp q hq
  have hclashes : ∀ l₁ p l₂, ps = l₁ ++ p :: l₂ → (p.clashes l₁ = [] ↔ _) :=
    fun l₁ p l₂ heq => Pipeline.clashes_eq_nil_iff_lookup l₁
      (h p (by simp [heq])).distinct_groups
  rw [hagree, length_flatMap_le_one_iff]
  simp only [← forall_findSome?_iff]
  constructor
  · intro hnone
    refine ⟨?_, fun p hp => (h p hp).one_request, ?_⟩
    · intro name l₁ p l₂ heq
      exact ((hclashes l₁ p l₂ heq).1 (hnone l₁ p l₂ heq)).1 name
    · intro l₁ p l₂ heq
      exact ((hclashes l₁ p l₂ heq).1 (hnone l₁ p l₂ heq)).2
  · rintro ⟨htargets, _, hrequests⟩ l₁ p l₂ heq
    exact (hclashes l₁ p l₂ heq).2
      ⟨fun name => htargets name l₁ p l₂ heq, hrequests l₁ p l₂ heq⟩

/-! ## The assembly -/

namespace Assembly

theorem checks_addTarget (serviceGroup : String) (g : Graph) (name : String)
    (target : ResourceGroupTarget) : Checks (addTarget serviceGroup g name target)
      (targetObjections (g.ownersOf name) serviceGroup (g.resourceGroups.lookup name) target)
      fun g' => g'.resourceGroups.lookup name = (g.resourceGroups.lookup name).or (some target) ∧
        g'.ownersOf name = Sorted.insert serviceGroup (g.ownersOf name) ∧
        (∀ k, k ≠ name → g'.resourceGroups.lookup k = g.resourceGroups.lookup k ∧
          g'.ownersOf k = g.ownersOf k) := by
  have howners : ((Sorted.put name (Sorted.insert serviceGroup (g.ownersOf name)) g.owners).lookup
      name).getD [] = Sorted.insert serviceGroup (g.ownersOf name) := by
    rw [Sorted.lookup_put_self, Option.getD_some]
  have hothers : ∀ k, k ≠ name → ((Sorted.put name (Sorted.insert serviceGroup (g.ownersOf name))
      g.owners).lookup k).getD [] = g.ownersOf k := by
    intro k hk
    rw [Sorted.lookup_put_of_ne hk]
    rfl
  unfold addTarget targetObjections
  cases hrecorded : g.resourceGroups.lookup name with
  | none =>
    refine .ok ⟨Sorted.lookup_put_self .., howners, fun k hk => ⟨?_, hothers k hk⟩⟩
    exact Sorted.lookup_put_of_ne hk ..
  | some r =>
    by_cases hagrees : r.agrees target
    · simp only [objectIf, hagrees, not_true_eq_false, if_true, if_false]
      exact .ok ⟨hrecorded, howners, fun k hk => ⟨rfl, hothers k hk⟩⟩
    · simp only [objectIf, hagrees]
      exact .error _ _

/-- Targets of different resource groups do not get into each other's way. -/
theorem checks_addTargets (serviceGroup : String) : ∀ {l : List (String × ResourceGroupTarget)},
    (l.map Prod.fst).Nodup → ∀ g : Graph, Checks (addTargets serviceGroup g l)
      (l.flatMap fun e =>
        targetObjections (g.ownersOf e.1) serviceGroup (g.resourceGroups.lookup e.1) e.2)
      fun g' => ∀ name,
        g'.resourceGroups.lookup name = (g.resourceGroups.lookup name).or (l.lookup name) ∧
          g'.ownersOf name = if name ∈ l.map Prod.fst then
            Sorted.insert serviceGroup (g.ownersOf name) else g.ownersOf name
  | [], _, g => .ok fun name => by simp
  | (k, target) :: l, h, g => by
    obtain ⟨hk, hl⟩ := List.nodup_cons.1 h
    rw [addTargets, List.flatMap_cons]
    refine (checks_addTarget serviceGroup g k target).bind ?_
    rintro g₁ ⟨htarget, howners, hothers⟩
    have hobjections : (l.flatMap fun e => targetObjections (g.ownersOf e.1) serviceGroup
        (g.resourceGroups.lookup e.1) e.2) = l.flatMap fun e => targetObjections (g₁.ownersOf e.1)
          serviceGroup (g₁.resourceGroups.lookup e.1) e.2 := by
      refine List.flatMap_congr fun e he => ?_
      have hne : e.1 ≠ k := fun hek => hk (List.mem_map.2 ⟨e, he, hek⟩)
      rw [(hothers e.1 hne).1, (hothers e.1 hne).2]
    rw [hobjections]
    refine (checks_addTargets serviceGroup hl g₁).mono fun g₂ hg₂ name => ?_
    rw [(hg₂ name).1, (hg₂ name).2]
    by_cases hname : name = k
    · subst hname
      simp [htarget, howners, hk]
    · have hmem : name ∈ ((k, target) :: l).map Prod.fst ↔ name ∈ l.map Prod.fst := by
        simp [hname]
      rw [(hothers name hname).1, (hothers name hname).2, Sorted.lookup_cons_of_ne hname]
      simp only [hmem, and_self]

theorem checks_addSubscription (g : Graph) (s : Option Subscription) :
    Checks (addSubscription g s) (subscriptionObjections g.subscription s)
      fun g' => g'.subscription = g.subscription.or s := by
  unfold addSubscription
  cases s with
  | none =>
    cases hg : g.subscription with
    | none => exact .ok (by simp [hg])
    | some r => exact .ok (by simp [hg])
  | some incoming =>
    cases g.subscription with
    | none => exact .ok rfl
    | some r => exact .error _ _

/-- Pushing nodes leaves the records alone. -/
theorem records_foldl_push {ps : List Pipeline} : ∀ (l : List Node) {a : Assembly},
    a.graph.Records ps → (l.foldl push a).graph.Records ps
  | [], _, h => h
  | _ :: l, _, h => records_foldl_push l ⟨h.target, h.owners, h.subscription⟩

/-- A contribution is recorded unless its pipeline clashes with what is recorded already. -/
theorem checks_addContribution {a : Assembly} {ps : List Pipeline} {p : Pipeline}
    {c : Contribution} (ha : a.graph.Records ps)
    (hc : c.inventory.Lists p.serviceGroup p.resourceGroups)
    (hp : (p.resourceGroups.map ResourceGroup.name).Nodup) :
    Checks (a.addContribution p.serviceGroup c) (p.clashes ps)
      fun a' => a'.graph.Records (ps ++ [p]) := by
  rw [← p.keys_targets] at hp
  have hsubscription : c.inventory.subscription = p.requests.head? := hc.subscription
  have htargets := checks_addTargets p.serviceGroup
    (Sorted.ofPairs p.targets).nodup_keys a.graph
  have hkeys : ∀ name, name ∈ (Sorted.ofPairs p.targets).entries.map Prod.fst ↔
      name ∈ p.targets.map Prod.fst := fun _ => Sorted.mem_keys_ofPairs
  have hlookup : ∀ name, (Sorted.ofPairs p.targets).entries.lookup name = p.targets.lookup name :=
    fun name => (SortedMap.lookup_eq_lookup_entries _ name).symm.trans (Sorted.lookup_ofPairs hp name)
  simp only [ha.target, ha.owners, hkeys, hlookup] at htargets
  simp only [← recordedTarget?_concat, ← recordedOwners_concat] at htargets
  have hall := htargets.and_property (Q := fun g => g.subscription = a.graph.subscription)
    fun g hg => by rw [addTargets_frame hg]
  unfold addContribution Pipeline.clashes
  simp only [hc.resourceGroups]
  refine hall.bind ?_
  rintro g₁ ⟨hsame, hg₁⟩
  rw [← ha.subscription, ← hsubscription, ← hsame]
  have hadd := (checks_addSubscription g₁ c.inventory.subscription).and_property
    (Q := fun g => g = { g₁ with subscription := g.subscription })
    fun g hg => addSubscription_frame hg
  refine hadd.bind_ok ?_
  rintro g₂ ⟨hframe, hg₂⟩
  refine .ok (records_foldl_push _ ?_)
  constructor
  case target =>
    intro name
    rw [hframe]
    exact (hg₁ name).1
  case owners =>
    intro name
    rw [hframe]
    exact (hg₁ name).2
  case subscription =>
    change g₂.subscription = _
    rw [hg₂, hsame, ha.subscription, hsubscription, List.flatMap_append, List.flatMap_singleton,
      List.head?_append]

end Assembly

end RolloutPlan
