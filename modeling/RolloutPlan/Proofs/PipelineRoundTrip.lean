import RolloutPlan.Proofs.StepRoundTrip

/-!
# Pipelines that were written

* `Pipeline.Portable`: pipelines whose literals JSON can hold.
* `Pipeline.ofTree?_limited_encode`: a pipeline that was written as a document, not nested too deeply, is
  read as it was.
-/

namespace RolloutPlan

open Yaml

set_option autoImplicit false

variable {ms : List (String × Json)}

/-! ## Targets -/

@[simp] theorem Yaml.Datum.list?_strings (l : List String) :
    Datum.list? Datum.text? (Datum.ofJson (.strings l)) = some l :=
  Datum.list?_ofJson fun s _ => Datum.text?_ofJson s

@[simp] theorem Yaml.Tree.list?_strings (l : List String) :
    Tree.list? Tree.text? (Tree.ofJson (.strings l)) = some l :=
  Tree.list?_ofJson fun s _ => Tree.text?_ofJson s

theorem Json.exact_strings (l : List String) : (Json.strings l).Exact :=
  .array (List.forall_mem_map.2 fun s _ => .string s)

namespace ExecutionConstraint

theorem exact_encode (c : ExecutionConstraint) : c.encode.Exact := by
  simp [encode, Json.exact_strings]

@[simp]
theorem ofDatum?_encode (c : ExecutionConstraint) : ofDatum? (Datum.ofJson c.encode) = some c := by
  simp [ofDatum?, encode, List.lookup_cons]

end ExecutionConstraint

namespace ResourceGroupTarget

/-- The keys of a target. -/
def keys : List String := ["name", "resourceGroup", "subscription", "executionConstraints"]

theorem members_eq (t : ResourceGroupTarget) : t.members =
    [("name", .string t.name), ("resourceGroup", .string t.resourceGroup),
      ("subscription", .string t.subscription)] ++
    Json.member "executionConstraints"
      (Json.someArray ExecutionConstraint.encode t.executionConstraints) := by
  rw [members, Json.nonempty_eq_member]

theorem keys_sublist (t : ResourceGroupTarget) : (t.members.map (·.1)).Sublist keys := by
  rw [members_eq, List.map_append]
  exact List.Sublist.append_left (Json.keys_member_sublist "executionConstraints" _) _

theorem exact_members (t : ResourceGroupTarget) : ∀ e ∈ t.members, e.2.Exact := by
  rw [members_eq]
  refine List.forall_mem_append.2 ⟨by simp, Json.exact_member.2 (Json.exact_someArray.2 ?_)⟩
  exact fun c _ => c.exact_encode

theorem lookup_members (t : ResourceGroupTarget) :
    t.members.lookup "name" = some (.string t.name) ∧
      t.members.lookup "resourceGroup" = some (.string t.resourceGroup) ∧
      t.members.lookup "subscription" = some (.string t.subscription) ∧
      t.members.lookup "executionConstraints" =
        Json.someArray ExecutionConstraint.encode t.executionConstraints := by
  simp [members_eq, List.lookup_cons]

theorem ofRecord?_of_lookup {t : ResourceGroupTarget} (hkeys : (ms.map (·.1)).Nodup)
    (hms : ∀ k ∈ keys, ms.lookup k = t.members.lookup k) :
    ofRecord? (Json.record Datum.ofJson ms) = some t := by
  obtain ⟨hname, hgroup, hsubscription, hconstraints⟩ := t.lookup_members
  simp only [ofRecord?, Json.required_record hkeys, Json.withDefault_record hkeys,
    hms "name" (by decide), hms "resourceGroup" (by decide), hms "subscription" (by decide),
    hms "executionConstraints" (by decide), hname, hgroup, hsubscription, hconstraints]
  rw [Json.elim_someArray (Datum.list?_ofJson fun c _ => c.ofDatum?_encode)]
  rfl

end ResourceGroupTarget

/-! ## Requests for subscriptions -/

/-- A request with values only whose literals JSON can hold. -/
structure SubscriptionProvisioning.Portable (q : SubscriptionProvisioning) : Prop where
  displayName : q.displayName.Portable
  principal : ∀ v ∈ q.airsRegisteredUserPrincipalId, v.Portable
  domains : ∀ v ∈ q.certificateDomains, v.Portable

namespace SubscriptionProvisioning

variable {q : SubscriptionProvisioning}

/-- The members of the object that is written. -/
def members (q : SubscriptionProvisioning) : List (String × Json) :=
  ("displayName", q.displayName.encode) ::
    (Json.member "airsRegisteredUserPrincipalId"
        (q.airsRegisteredUserPrincipalId.map Value.encode) ++
      Json.member "certificateDomains" (q.certificateDomains.map Value.encode))

theorem encode_eq (q : SubscriptionProvisioning) : q.encode = .object q.members := by
  rw [encode, Json.present_eq_member, Json.present_eq_member, members]

theorem keys_nodup (q : SubscriptionProvisioning) : (q.members.map (·.1)).Nodup := by
  have hsublist : (q.members.map (·.1)).Sublist
      ["displayName", "airsRegisteredUserPrincipalId", "certificateDomains"] := by
    rw [members, List.map_cons, List.map_append]
    exact ((Json.keys_member_sublist "airsRegisteredUserPrincipalId" _).append
      (Json.keys_member_sublist "certificateDomains" _)).cons_cons "displayName"
  exact hsublist.nodup (by decide)

theorem exact_encode (hq : q.Portable) : q.encode.Exact := by
  simp only [encode_eq, members, Json.exact_object, List.forall_mem_append, List.forall_mem_cons,
    Json.exact_member, Json.exact_map]
  exact ⟨Value.exact_encode hq.displayName, fun v hv => Value.exact_encode (hq.principal v hv),
    fun v hv => Value.exact_encode (hq.domains v hv)⟩

theorem lookup_members (q : SubscriptionProvisioning) :
    q.members.lookup "displayName" = some q.displayName.encode ∧
      q.members.lookup "airsRegisteredUserPrincipalId" =
        q.airsRegisteredUserPrincipalId.map Value.encode ∧
      q.members.lookup "certificateDomains" = q.certificateDomains.map Value.encode := by
  simp [members, List.lookup_append, List.lookup_cons]

theorem optional?_value {v : Value} (hv : v.Portable) :
    (Tree.ofJson v.encode).optional? Value.ofTree? = some (some v) := by
  rw [Tree.optional?_ofJson (Value.exact_encode hv) (Json.noConfusion ·), Value.ofTree?_encode hv]
  rfl

theorem ofTree?_encode (hq : q.Portable) : ofTree? (Tree.ofJson q.encode) = some q := by
  have hkeys := q.keys_nodup
  obtain ⟨hname, hprincipal, hdomains⟩ := q.lookup_members
  rw [ofTree?, encode_eq, Json.tree_record?_ofJson]
  simp only [Option.bind_eq_bind, Option.bind_some, Json.required_record hkeys,
    Json.optional_record hkeys, hname, hprincipal, hdomains, Value.ofTree?_encode hq.displayName]
  rw [Json.elim_map_encode fun v hv => optional?_value (hq.principal v hv),
    Json.elim_map_encode fun v hv => optional?_value (hq.domains v hv)]
  rfl

end SubscriptionProvisioning

/-! ## Resource groups -/

/-- A resource group with values only whose literals JSON can hold, and retries counted in 32 bits. -/
structure ResourceGroup.Portable (g : ResourceGroup) : Prop where
  provisioning : ∀ q ∈ g.subscriptionProvisioning, q.Portable
  steps : ∀ s ∈ g.steps, s.Portable
  validationSteps : ∀ s ∈ g.validationSteps, s.toStep.Portable

namespace ResourceGroup

variable {g : ResourceGroup}

/-- The keys of what a resource group has besides its target. -/
def ownKeys : List String := ["subscriptionProvisioning", "steps", "validationSteps"]

/-- What is written of a resource group besides its target. -/
def ownMembers (g : ResourceGroup) : List (String × Json) :=
  Json.member "subscriptionProvisioning"
      (g.subscriptionProvisioning.map SubscriptionProvisioning.encode) ++
    ("steps", .array (g.steps.map Step.encode)) ::
      Json.member "validationSteps" (Json.someArray ValidationStep.encode g.validationSteps)

theorem encode_eq (g : ResourceGroup) : g.encode = .object (g.target.members ++ g.ownMembers) := by
  rw [encode, Json.present_eq_member, Json.nonempty_eq_member, ownMembers, List.append_assoc]

theorem ownKeys_sublist (g : ResourceGroup) : (g.ownMembers.map (·.1)).Sublist ownKeys := by
  rw [ownMembers, List.map_append]
  exact (Json.keys_member_sublist "subscriptionProvisioning" _).append
    ((Json.keys_member_sublist "validationSteps" _).cons_cons "steps")

theorem split?_encode (g : ResourceGroup) : (Tree.ofJson g.encode).split? ownKeys =
    some (Json.record Tree.ofJson g.ownMembers, Json.record Datum.ofJson g.target.members) := by
  have htarget : ∀ e ∈ g.target.members, e.1 ∉ ownKeys := fun e he => by
    have hkeys : ∀ k ∈ ResourceGroupTarget.keys, k ∉ ownKeys := by decide
    exact hkeys e.1 (g.target.keys_sublist.subset (List.mem_map_of_mem he))
  have hown : ∀ e ∈ g.ownMembers, e.1 ∈ ownKeys := fun e he =>
    g.ownKeys_sublist.subset (List.mem_map_of_mem he)
  have hexact : ∀ e ∈ g.target.members ++ g.ownMembers, e.1 ∉ ownKeys → e.2.Exact := by
    intro e he hkey
    rcases List.mem_append.1 he with he | he
    · exact g.target.exact_members e he
    · exact absurd (hown e he) hkey
  rw [encode_eq, Tree.split?_ofJson hexact, List.filter_append, List.filter_append,
    List.filter_eq_nil_iff.2 fun e he => by simpa using htarget e he,
    List.filter_eq_self.2 fun e he => by simpa using hown e he,
    List.filter_eq_self.2 fun e he => by simpa using htarget e he,
    List.filter_eq_nil_iff.2 fun e he => by simpa using hown e he, List.nil_append,
    List.append_nil]

theorem lookup_ownMembers (g : ResourceGroup) :
    g.ownMembers.lookup "subscriptionProvisioning" =
        g.subscriptionProvisioning.map SubscriptionProvisioning.encode ∧
      g.ownMembers.lookup "steps" = some (.array (g.steps.map Step.encode)) ∧
      g.ownMembers.lookup "validationSteps" =
        Json.someArray ValidationStep.encode g.validationSteps := by
  simp [ownMembers, List.lookup_append, List.lookup_cons]

theorem ofTree?_encode (hg : g.Portable) : ofTree? (Tree.ofJson g.encode) = some g := by
  have hkeys := g.ownKeys_sublist.nodup (by decide)
  have htarget := g.target.keys_sublist.nodup (by decide)
  obtain ⟨hprovisioning, hsteps, hvalidation⟩ := g.lookup_ownMembers
  have hsplit := g.split?_encode
  rw [ownKeys] at hsplit
  rw [ofTree?, hsplit]
  simp only [Option.bind_eq_bind, Option.bind_some, Json.optional_record hkeys,
    Json.withDefault_record hkeys, hprovisioning, hsteps, hvalidation, Option.elim_some,
    ResourceGroupTarget.ofRecord?_of_lookup htarget fun k _ => rfl,
    Tree.list?_ofJson fun s hs => Step.ofTree?_encode (hg.steps s hs)]
  rw [Json.elim_map_encode fun q hq => ?_,
    Json.elim_someArray
      (Tree.list?_ofJson fun s hs => ValidationStep.ofTree?_encode (hg.validationSteps s hs))]
  · rfl
  · have hq := hg.provisioning q hq
    rw [Tree.optional?_ofJson (SubscriptionProvisioning.exact_encode hq) (Json.noConfusion ·),
      SubscriptionProvisioning.ofTree?_encode hq]
    rfl

end ResourceGroup

/-! ## Pipelines -/

theorem BuildStep.exact_encode (b : BuildStep) : b.encode.Exact := by
  simp [encode, Json.exact_strings]

theorem BuildStep.ofTree?_encode (b : BuildStep) : ofTree? (Tree.ofJson b.encode) = some b := by
  simp [ofTree?, encode, List.lookup_cons]

/-- A pipeline with values only whose literals JSON can hold, and retries counted in 32 bits. -/
def Pipeline.Portable (p : Pipeline) : Prop := ∀ g ∈ p.resourceGroups, g.Portable

namespace Pipeline

variable {p : Pipeline}

/-- The members of the object that is written. -/
def members (p : Pipeline) : List (String × Json) :=
  Json.member "$schema" (p.schema.map .string) ++
    [("serviceGroup", .string p.serviceGroup), ("rolloutName", .string p.rolloutName),
      ("resourceGroups", .array (p.resourceGroups.map ResourceGroup.encode))] ++
    Json.member "buildStep" (p.buildStep.map BuildStep.encode)

theorem encode_eq (p : Pipeline) : p.encode = .object p.members := by
  rw [encode, Json.presentText_eq_member, Json.present_eq_member, members]

theorem keys_nodup (p : Pipeline) : (p.members.map (·.1)).Nodup := by
  have hsublist : (p.members.map (·.1)).Sublist
      ["$schema", "serviceGroup", "rolloutName", "resourceGroups", "buildStep"] := by
    rw [members, List.map_append, List.map_append]
    exact ((Json.keys_member_sublist "$schema" _).append_right _).append
      (Json.keys_member_sublist "buildStep" _)
  exact hsublist.nodup (by decide)

theorem lookup_members (p : Pipeline) :
    p.members.lookup "$schema" = p.schema.map .string ∧
      p.members.lookup "serviceGroup" = some (.string p.serviceGroup) ∧
      p.members.lookup "rolloutName" = some (.string p.rolloutName) ∧
      p.members.lookup "resourceGroups" =
        some (.array (p.resourceGroups.map ResourceGroup.encode)) ∧
      p.members.lookup "buildStep" = p.buildStep.map BuildStep.encode := by
  simp [members, List.lookup_append, List.lookup_cons]

theorem ofTree?_encode (hp : p.Portable) : ofTree? (Tree.ofJson p.encode) = some p := by
  have hkeys := p.keys_nodup
  obtain ⟨hschema, hservice, hname, hgroups, hbuild⟩ := p.lookup_members
  rw [ofTree?, encode_eq, Json.tree_record?_ofJson]
  simp only [Option.bind_eq_bind, Option.bind_some, Json.required_record hkeys,
    Json.withDefault_record hkeys, Json.optional_record hkeys, hschema, hservice, hname, hgroups,
    hbuild, Option.elim_some, Tree.text?_ofJson,
    Tree.list?_ofJson fun g hg => ResourceGroup.ofTree?_encode (hp g hg)]
  rw [Json.elim_map_encode fun s _ => rfl, Json.elim_map_encode fun b _ => ?_]
  · rfl
  · rw [Tree.optional?_ofJson b.exact_encode (Json.noConfusion ·), b.ofTree?_encode]
    rfl

/-- A pipeline that was written as a document is read from it as it was: every kind of step, everything
that is left out because it is empty, and every literal. -/
theorem ofTree?_limited_encode (hp : p.Portable)
    (hdepth : (Tree.ofJson p.encode).depth ≤ maxDepth) :
    ofTree? ((Tree.ofJson p.encode).limited maxDepth) = some p := by
  rw [Tree.limited_of_depth_le hdepth, ofTree?_encode hp]

/-- A mapping with a list and a null in it. -/
def zoneSettings : Datum :=
  .mapping [(.string "replicas", .integer 3), (.string "zones", .list [.string "1", .bool true]),
    (.string "peer", .null)]

theorem portable_zoneSettings : zoneSettings.Portable := by
  have hzones : (Datum.list [.string "1", .bool true]).Portable := by
    refine .list ?_
    simp only [List.forall_mem_cons, List.not_mem_nil, false_imp_iff, implies_true, and_true]
    exact ⟨.string "1", .bool true⟩
  refine .mapping (l := [("replicas", .integer 3), ("zones", .list [.string "1", .bool true]),
    ("peer", .null)]) (by decide) ?_
  simp only [List.forall_mem_cons, List.not_mem_nil, false_imp_iff, implies_true, and_true]
  exact ⟨.integer (by decide), hzones, .null⟩

/-- Deploys a template with the settings. -/
def deployZone : Step where
  header := { name := "deploy", automatedRetry := some { maximumRetries := 3 } }
  body := .arm { bindings := [⟨"settings", { literal := some zoneSettings }⟩] }

theorem portable_deployZone : deployZone.Portable where
  header := fun r hr => Option.some.inj hr ▸ (by decide : IsCount 3)
  body := by
    refine StepBody.portable_arm.2 (List.forall_mem_singleton.2 fun d hd => ?_)
    obtain rfl : zoneSettings = d := Option.some.inj hd
    exact ⟨portable_zoneSettings, Datum.noConfusion⟩

/-- Deploys a zone and then tests it. -/
def zonePipeline : Pipeline where
  serviceGroup := "Contoso.Zone"
  resourceGroups := [{
    target := { name := "zone", resourceGroup := "zone-rg", subscription := "main" }
    steps := [deployZone]
    validationSteps := [{
      header := { name := "test", dependsOn := [⟨"zone", "deploy"⟩] }
      shell := { command := "make test" } }] }]
  buildStep := some { command := "make" }

theorem portable_zonePipeline : zonePipeline.Portable := by
  refine List.forall_mem_singleton.2 ⟨?_, ?_, ?_⟩
  · intro q hq
    exact nomatch hq
  · exact List.forall_mem_singleton.2 portable_deployZone
  · refine List.forall_mem_singleton.2 ⟨?_, ?_⟩
    · intro r hr
      exact nomatch hr
    · simp [ValidationStep.toStep, Value.Portable]

theorem ofTree?_limited_zonePipeline :
    zonePipeline.Portable ∧ (Tree.ofJson zonePipeline.encode).depth ≤ maxDepth ∧
      ofTree? ((Tree.ofJson zonePipeline.encode).limited maxDepth) = some zonePipeline :=
  ⟨portable_zonePipeline, by decide, ofTree?_limited_encode portable_zonePipeline (by decide)⟩

end Pipeline

end RolloutPlan
