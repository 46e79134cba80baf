import RolloutPlan.Proofs.WiredValues
import RolloutPlan.Proofs.WrittenRecord

/-!
# Steps that were written

* `Value.Portable`, `Step.Portable`: steps whose literals JSON can hold.
* `Value.ofDatum?_encode`, `Value.ofTree?_encode`: a value, in both ways of reading.
* `StepHeader.ofRecord?_of_lookup`, `StepBody.ofRecord?_of_lookup`: the two parts of a step, from a
  record that has other keys besides.
* `Step.ofTree?_encode`, `ValidationStep.ofTree?_encode`: a step that was written is read as it was.
-/

namespace RolloutPlan

open Yaml

set_option autoImplicit false

variable {ms : List (String × Json)}

/-! ## References -/

namespace StepReference

theorem exact_encode (r : StepReference) : r.encode.Exact := by
  simp [encode]

theorem ofRecord?_of_lookup {r : StepReference} (hkeys : (ms.map (·.1)).Nodup)
    (hgroup : ms.lookup "resourceGroup" = some (.string r.resourceGroup))
    (hstep : ms.lookup "step" = some (.string r.step)) :
    ofRecord? (Json.record Datum.ofJson ms) = some r := by
  rw [ofRecord?, Json.required_record hkeys, Json.required_record hkeys, hgroup, hstep]
  rfl

@[simp] theorem ofDatum?_encode (r : StepReference) : ofDatum? (Datum.ofJson r.encode) = some r := by
  rw [ofDatum?, encode, Json.record?_ofJson]
  simp only [Option.bind_eq_bind, Option.bind_some]
  exact ofRecord?_of_lookup (by simp) rfl rfl

end StepReference

namespace ExternalStepReference

theorem exact_encode (r : ExternalStepReference) : r.encode.Exact := by
  simp [encode]

@[simp] theorem ofDatum?_encode (r : ExternalStepReference) :
    ofDatum? (Datum.ofJson r.encode) = some r := by
  simp [ofDatum?, encode, List.lookup_cons]

end ExternalStepReference

namespace Input

theorem exact_encode (i : Input) : i.encode.Exact := by
  simp [encode]

@[simp] theorem ofDatum?_encode (i : Input) : ofDatum? (Datum.ofJson i.encode) = some i := by
  rw [ofDatum?, encode, Json.keyed_ofJson]
  simp only [Option.bind_eq_bind, Option.bind_some]
  rw [Json.required_record (by simp), StepReference.ofRecord?_of_lookup (by simp) rfl rfl]
  rfl

@[simp] theorem ofTree?_encode (i : Input) : ofTree? (Tree.ofJson i.encode) = some i := by
  rw [ofTree?, encode, Tree.split?_ofJson (by simp)]
  simp only [Option.bind_eq_bind, Option.bind_some]
  rw [Json.required_record (by simp), StepReference.ofRecord?_of_lookup (by simp) rfl rfl]
  rfl

end Input

/-! ## Values -/

/-- A value whose literal is something that JSON can hold, if it has one. -/
def Value.Portable (v : Value) : Prop := ∀ d ∈ v.literal, d.Portable ∧ d ≠ .null

theorem Yaml.Datum.Portable.encode_ne_null {d : Datum} (hd : d.Portable) (hnull : d ≠ .null) :
    d.encode ≠ .null := by
  cases hd <;> simp_all [Datum.encode]

namespace Value

variable {v : Value}

theorem keys_sublist (v : Value) :
    (v.members.map (·.1)).Sublist ["value", "configRef", "input"] := by
  rw [members, Json.present_eq_member, Json.presentText_eq_member, Json.present_eq_member,
    List.map_append, List.map_append]
  exact ((Json.keys_member_sublist "value" _).append (Json.keys_member_sublist "configRef" _)).append
    (Json.keys_member_sublist "input" _)

theorem exact_members (hv : v.Portable) : ∀ e ∈ v.members, e.2.Exact := by
  simp only [members, Json.present_eq_member, Json.presentText_eq_member, List.forall_mem_append,
    Json.exact_member, Json.exact_map]
  exact ⟨⟨fun d hd => (hv d hd).1.exact_encode, fun s _ => .string s⟩, fun i _ => i.exact_encode⟩

theorem exact_encode (hv : v.Portable) : v.encode.Exact := .object (exact_members hv)

theorem lookup_members (v : Value) :
    v.members.lookup "value" = v.literal.map Datum.encode ∧
      v.members.lookup "configRef" = v.configRef.map .string ∧
      v.members.lookup "input" = v.input.map Input.encode := by
  simp [members, Json.present_eq_member, Json.presentText_eq_member, List.lookup_append]

theorem ofRecord?_of_lookup (hv : v.Portable) (hkeys : (ms.map (·.1)).Nodup)
    (h : ∀ k ∈ ["value", "configRef", "input"], ms.lookup k = v.members.lookup k) :
    ofRecord? (Json.record Datum.ofJson ms) = some v := by
  obtain ⟨hliteral, hconfig, hinput⟩ := v.lookup_members
  simp only [ofRecord?, Json.optional_record hkeys, h "value" (by simp), h "configRef" (by simp),
    h "input" (by simp), hliteral, hconfig, hinput]
  rw [Json.elim_map_encode fun d hd => ?_, Json.elim_map_encode fun s _ => rfl,
    Json.elim_map_encode fun i _ => ?_]
  · rfl
  · rw [Datum.optional?_ofJson (Json.noConfusion ·), Input.ofDatum?_encode]
    rfl
  · obtain ⟨hportable, hnull⟩ := hv d hd
    rw [Datum.optional?_ofJson (hportable.encode_ne_null hnull), hportable.ofJson_encode,
      Datum.literal?, if_pos hportable.wellKeyed]
    rfl

theorem ofDatum?_encode (hv : v.Portable) : ofDatum? (Datum.ofJson v.encode) = some v := by
  rw [ofDatum?, encode, Json.record?_ofJson]
  exact ofRecord?_of_lookup hv (v.keys_sublist.nodup (by decide)) fun k _ => rfl

theorem ofTree?_encode (hv : v.Portable) : ofTree? (Tree.ofJson v.encode) = some v := by
  obtain ⟨hliteral, hconfig, hinput⟩ := v.lookup_members
  have hkeys := v.keys_sublist.nodup (by decide)
  rw [ofTree?, encode, Json.tree_record?_ofJson]
  simp only [Option.bind_eq_bind, Option.bind_some, Json.optional_record hkeys, hliteral, hconfig,
    hinput]
  rw [Json.elim_map_encode fun d hd => ?_, Json.elim_map_encode fun s _ => rfl,
    Json.elim_map_encode fun i _ => ?_]
  · rfl
  · rw [Tree.optional?_ofJson i.exact_encode (Json.noConfusion ·), Input.ofTree?_encode]
    rfl
  · obtain ⟨hportable, hnull⟩ := hv d hd
    rw [Tree.optional?_ofJson hportable.exact_encode (hportable.encode_ne_null hnull),
      hportable.literal?_ofJson_encode]
    rfl

/-- A null at the top of a literal is read as no literal. -/
example : ofTree? (Tree.ofJson (encode { literal := some .null })) = some {} := rfl

end Value

namespace Variable

theorem exact_encode {v : Variable} (hv : v.value.Portable) : v.encode.Exact :=
  .object (List.forall_mem_cons.2 ⟨.string v.name, Value.exact_members hv⟩)

theorem ofDatum?_encode {v : Variable} (hv : v.value.Portable) :
    ofDatum? (Datum.ofJson v.encode) = some v := by
  have hkeys : ((("name", Json.string v.name) :: v.value.members).map (·.1)).Nodup :=
    (v.value.keys_sublist.cons_cons "name").nodup (by decide)
  have hvalue : ∀ k ∈ ["value", "configRef", "input"],
      (("name", Json.string v.name) :: v.value.members).lookup k = v.value.members.lookup k := by
    intro k hk
    refine Sorted.lookup_cons_of_ne ?_ _ _
    rintro rfl
    exact absurd hk (by decide)
  rw [ofDatum?, encode, Json.keyed_ofJson]
  simp only [Option.bind_eq_bind, Option.bind_some, Json.required_record hkeys,
    List.lookup_cons_self, Datum.text?_ofJson, Value.ofRecord?_of_lookup hv hkeys hvalue]
  rfl

theorem list?_bindings {l : List Variable} (hl : ∀ v ∈ l, v.value.Portable) :
    Datum.list? ofDatum? (Datum.ofJson (Json.bindings l)) = some l :=
  Datum.list?_ofJson fun v hv => ofDatum?_encode (hl v hv)

theorem exact_bindings {l : List Variable} (hl : ∀ v ∈ l, v.value.Portable) :
    (Json.bindings l).Exact :=
  .array (List.forall_mem_map.2 fun v hv => exact_encode (hl v hv))

end Variable

/-! ## Headers -/

namespace AutomatedRetry

variable {r : AutomatedRetry}

/-- The members of the object that is written. -/
def members (r : AutomatedRetry) : List (String × Json) :=
  Json.member "errorContainsAny" (Json.someArray .string r.errorContainsAny) ++
    ("maximumRetries", .integer r.maximumRetries) ::
      Json.member "durationBetweenRetries" (r.durationBetweenRetries.map .string)

theorem encode_eq (r : AutomatedRetry) : r.encode = .object r.members := by
  rw [encode, Json.nonempty_eq_member, Json.presentText_eq_member, members]

theorem keys_sublist (r : AutomatedRetry) : (r.members.map (·.1)).Sublist
    ["errorContainsAny", "maximumRetries", "durationBetweenRetries"] := by
  rw [members, List.map_append]
  exact (Json.keys_member_sublist "errorContainsAny" _).append
    ((Json.keys_member_sublist "durationBetweenRetries" _).cons_cons "maximumRetries")

theorem exact_encode (hr : IsCount r.maximumRetries) : r.encode.Exact := by
  simp only [encode_eq, members, Json.exact_object, List.forall_mem_append, List.forall_mem_cons,
    Json.exact_member, Json.exact_map, Json.exact_someArray]
  exact ⟨fun s _ => .string s, .integer hr.isWord, fun s _ => .string s⟩

theorem lookup_members (r : AutomatedRetry) :
    r.members.lookup "errorContainsAny" = Json.someArray .string r.errorContainsAny ∧
      r.members.lookup "maximumRetries" = some (.integer r.maximumRetries) ∧
      r.members.lookup "durationBetweenRetries" = r.durationBetweenRetries.map .string := by
  simp [members, List.lookup_append, List.lookup_cons]

theorem ofDatum?_encode (hr : IsCount r.maximumRetries) :
    ofDatum? (Datum.ofJson r.encode) = some r := by
  have hkeys := r.keys_sublist.nodup (by decide)
  obtain ⟨herrors, hmaximum, hduration⟩ := r.lookup_members
  -- This field is read apart from the others: under `simp` the bound of the count is unfolded.
  have hcount : (Json.record Datum.ofJson r.members).required "maximumRetries" Datum.count? =
      some r.maximumRetries := by
    rw [Json.required_record hkeys, hmaximum, Option.bind_some, Datum.count?_ofJson hr]
  rw [ofDatum?, encode_eq, Json.record?_ofJson]
  simp only [Option.bind_eq_bind, Option.bind_some, Json.withDefault_record hkeys, hcount,
    Json.optional_record hkeys, herrors, hduration]
  rw [Json.elim_someArray (Datum.list?_ofJson fun s _ => rfl),
    Json.elim_map_encode fun s _ => rfl]
  rfl

end AutomatedRetry

namespace StepHeader

variable {h : StepHeader}

/-- A header whose retries are counted in 32 bits. -/
def Portable (h : StepHeader) : Prop := ∀ r ∈ h.automatedRetry, IsCount r.maximumRetries

/-- The keys of a header. -/
def keys : List String := ["name", "dependsOn", "externalDependsOn", "automatedRetry"]

theorem members_eq (h : StepHeader) : h.members = ("name", .string h.name) ::
    (Json.member "dependsOn" (Json.someArray StepReference.encode h.dependsOn) ++
      Json.member "externalDependsOn"
        (Json.someArray ExternalStepReference.encode h.externalDependsOn) ++
      Json.member "automatedRetry" (h.automatedRetry.map AutomatedRetry.encode)) := by
  rw [members, Json.nonempty_eq_member, Json.nonempty_eq_member, Json.present_eq_member]

theorem keys_sublist (h : StepHeader) : (h.members.map (·.1)).Sublist keys := by
  rw [members_eq, List.map_cons, List.map_append, List.map_append]
  exact (((Json.keys_member_sublist "dependsOn" _).append
    (Json.keys_member_sublist "externalDependsOn" _)).append
      (Json.keys_member_sublist "automatedRetry" _)).cons_cons "name"

theorem exact_members (hh : h.Portable) : ∀ e ∈ h.members, e.2.Exact := by
  simp only [members_eq, List.forall_mem_append, List.forall_mem_cons, Json.exact_member,
    Json.exact_map, Json.exact_someArray]
  exact ⟨.string h.name, ⟨fun r _ => r.exact_encode, fun r _ => r.exact_encode⟩,
    fun r hr => AutomatedRetry.exact_encode (hh r hr)⟩

theorem lookup_members (h : StepHeader) :
    h.members.lookup "name" = some (.string h.name) ∧
      h.members.lookup "dependsOn" = Json.someArray StepReference.encode h.dependsOn ∧
      h.members.lookup "externalDependsOn" =
        Json.someArray ExternalStepReference.encode h.externalDependsOn ∧
      h.members.lookup "automatedRetry" = h.automatedRetry.map AutomatedRetry.encode := by
  simp [members_eq, List.lookup_append, List.lookup_cons]

theorem ofRecord?_of_lookup (hh : h.Portable) (hkeys : (ms.map (·.1)).Nodup)
    (hms : ∀ k ∈ keys, ms.lookup k = h.members.lookup k) :
    ofRecord? (Json.record Datum.ofJson ms) = some h := by
  obtain ⟨hname, hdepends, hexternal, hretry⟩ := h.lookup_members
  simp only [ofRecord?, Json.required_record hkeys, Json.withDefault_record hkeys,
    Json.optional_record hkeys, hms "name" (by decide), hms "dependsOn" (by decide),
    hms "externalDependsOn" (by decide), hms "automatedRetry" (by decide), hname, hdepends,
    hexternal, hretry]
  rw [Json.elim_someArray (Datum.list?_ofJson fun r _ => r.ofDatum?_encode),
    Json.elim_someArray (Datum.list?_ofJson fun r _ => r.ofDatum?_encode),
    Json.elim_map_encode fun r hr => ?_]
  · rfl
  · rw [Datum.optional?_ofJson (Json.noConfusion ·), AutomatedRetry.ofDatum?_encode (hh r hr)]
    rfl

end StepHeader

/-! ## Bodies -/

namespace DryRun

variable {d : DryRun}

theorem exact_encode (hd : ∀ v ∈ d.bindings, v.value.Portable) : d.encode.Exact := by
  simp [encode, Variable.exact_bindings hd]

theorem ofDatum?_encode (hd : ∀ v ∈ d.bindings, v.value.Portable) :
    ofDatum? (Datum.ofJson d.encode) = some d := by
  simp [ofDatum?, encode, List.lookup_cons, Variable.list?_bindings hd]

end DryRun

namespace FileReference

theorem exact_encode (r : FileReference) : r.encode.Exact := by
  simp [encode]

@[simp] theorem ofDatum?_encode (r : FileReference) : ofDatum? (Datum.ofJson r.encode) = some r := by
  simp [ofDatum?, encode, List.lookup_cons]

end FileReference

namespace StepBody

variable {b : StepBody}

/-- A body with values only whose literals JSON can hold. -/
def Portable (b : StepBody) : Prop := ∀ v ∈ b.values, v.Portable

/-- No two keys of a step are the same, be they for its kind, in its header or in its body. -/
theorem keys_nodup (b : StepBody) :
    ("action" :: (StepHeader.keys ++ b.members.map (·.1))).Nodup := by
  cases b <;> simp [StepHeader.keys, members, ShellCommand.members]

@[simp] theorem portable_arm {b : ArmDeployment} :
    (arm b).Portable ↔ ∀ v ∈ b.bindings, v.value.Portable := List.forall_mem_map

@[simp] theorem portable_shell {b : ShellCommand} : (shell b).Portable ↔
    (∀ v ∈ b.bindings, v.value.Portable) ∧ (∀ v ∈ b.dryRun.bindings, v.value.Portable) ∧
      b.shellIdentity.Portable := by
  simp only [Portable, values, List.forall_mem_append, List.forall_mem_map,
    List.forall_mem_singleton, and_assoc]

theorem portable_helm {b : HelmRelease} : (helm b).Portable ↔
    b.aksCluster.Portable ∧ b.identityFrom.Portable ∧ ∀ v ∈ b.bindings, v.value.Portable := by
  simp [Portable, values]

theorem exact_members (hb : b.Portable) : ∀ e ∈ b.members, e.2.Exact := by
  cases b with
  | arm b => simp [members, Variable.exact_bindings (portable_arm.1 hb)]
  | shell b =>
    obtain ⟨hbindings, hdry, hidentity⟩ := portable_shell.1 hb
    have hreferences : (Json.array (b.references.map FileReference.encode)).Exact :=
      .array (List.forall_mem_map.2 fun r _ => r.exact_encode)
    simp [members, ShellCommand.members, Variable.exact_bindings hbindings,
      DryRun.exact_encode hdry, Value.exact_encode hidentity, hreferences]
  | helm b =>
    obtain ⟨hcluster, hidentity, hbindings⟩ := portable_helm.1 hb
    simp [members, Value.exact_encode hcluster, Value.exact_encode hidentity,
      Variable.exact_bindings hbindings]
  | _ =>
    simp only [Portable, values, List.forall_mem_cons] at hb
    simp [members, Value.exact_encode, hb]

theorem shell?_of_lookup {b : ShellCommand} (hb : (shell b).Portable)
    (hkeys : (ms.map (·.1)).Nodup)
    (hms : ∀ k ∉ StepHeader.keys, ms.lookup k = b.members.lookup k) :
    shell? (Json.record Datum.ofJson ms) = some b := by
  obtain ⟨hbindings, hdry, hidentity⟩ := portable_shell.1 hb
  have hreferences : Datum.list? FileReference.ofDatum?
      (Datum.ofJson (.array (b.references.map FileReference.encode))) = some b.references :=
    Datum.list?_ofJson fun r _ => r.ofDatum?_encode
  simp [shell?, text?, value?, bindings?, Json.withDefault_record hkeys, hms, StepHeader.keys,
    ShellCommand.members, List.lookup_cons, Variable.list?_bindings hbindings,
    DryRun.ofDatum?_encode hdry, Value.ofDatum?_encode hidentity, hreferences]

theorem ofRecord?_of_lookup (hb : b.Portable) (hkeys : (ms.map (·.1)).Nodup)
    (hms : ∀ k ∉ StepHeader.keys, ms.lookup k = b.members.lookup k) :
    ofRecord? b.action (Json.record Datum.ofJson ms) = some b := by
  cases b with
  | arm b =>
    simp [action, ofRecord?, arm?, text?, bindings?, Json.withDefault_record hkeys, hms,
      StepHeader.keys, members, List.lookup_cons, Variable.list?_bindings (portable_arm.1 hb)]
  | shell b =>
    rw [action, ofRecord?, shell?_of_lookup hb hkeys hms]
    rfl
  | helm b =>
    obtain ⟨hcluster, hidentity, hbindings⟩ := portable_helm.1 hb
    simp [action, ofRecord?, helm?, text?, value?, bindings?, Json.withDefault_record hkeys, hms,
      StepHeader.keys, members, List.lookup_cons, Value.ofDatum?_encode hcluster,
      Value.ofDatum?_encode hidentity, Variable.list?_bindings hbindings]
  -- The other kinds have nothing but values and texts.
  | _ =>
    simp only [Portable, values, List.forall_mem_cons] at hb
    simp [action, ofRecord?, delegateChildZone?, setCertificateIssuer?, createCertificate?,
      resourceProviderRegistration?, imageMirror?, logs?, text?, value?,
      Json.withDefault_record hkeys, hms, StepHeader.keys, members, List.lookup_cons,
      Value.ofDatum?_encode, hb]

end StepBody

/-! ## Steps -/

/-- A step with values only whose literals JSON can hold, and retries counted in 32 bits. -/
structure Step.Portable (s : Step) : Prop where
  header : s.header.Portable
  body : s.body.Portable

namespace Step

variable {s : Step}

/-- What is written of a step besides its kind. -/
def members (s : Step) : List (String × Json) := s.header.members ++ s.body.members

theorem keys_sublist (s : Step) :
    (s.members.map (·.1)).Sublist (StepHeader.keys ++ s.body.members.map (·.1)) := by
  rw [members, List.map_append]
  exact s.header.keys_sublist.append (.refl _)

theorem keys_nodup (s : Step) : (s.members.map (·.1)).Nodup :=
  s.keys_sublist.nodup s.body.keys_nodup.of_cons

theorem action?_encode (hs : s.Portable) :
    (Tree.ofJson s.encode).action? = some (s.action, Json.record Datum.ofJson s.members) := by
  have hfresh : "action" ∉ s.members.map (·.1) := fun h =>
    (List.nodup_cons.1 s.body.keys_nodup).1 (s.keys_sublist.subset h)
  have hexact : ∀ e ∈ s.members, e.2.Exact := List.forall_mem_append.2
    ⟨StepHeader.exact_members hs.header, StepBody.exact_members hs.body⟩
  exact Tree.action?_ofJson hfresh hexact

theorem lookup_header (s : Step) {k : String} (hk : k ∈ StepHeader.keys) :
    s.members.lookup k = s.header.members.lookup k := by
  have hbody : k ∉ s.body.members.map (·.1) := fun hmem =>
    List.disjoint_of_nodup_append s.body.keys_nodup.of_cons hk hmem
  rw [members, List.lookup_append, lookup_eq_none_of_notMem hbody, Option.or_none]

theorem lookup_body (s : Step) {k : String} (hk : k ∉ StepHeader.keys) :
    s.members.lookup k = s.body.members.lookup k := by
  have hheader : k ∉ s.header.members.map (·.1) := fun hmem =>
    hk (s.header.keys_sublist.subset hmem)
  rw [members, List.lookup_append, lookup_eq_none_of_notMem hheader, Option.none_or]

theorem ofTree?_encode (hs : s.Portable) : ofTree? (Tree.ofJson s.encode) = some s := by
  rw [ofTree?, action?_encode hs]
  simp only [Option.bind_eq_bind, Option.bind_some,
    StepHeader.ofRecord?_of_lookup hs.header s.keys_nodup fun k => s.lookup_header]
  rw [action, StepBody.ofRecord?_of_lookup hs.body s.keys_nodup fun k => s.lookup_body]
  rfl

end Step

theorem ValidationStep.ofTree?_encode {s : ValidationStep} (hs : s.toStep.Portable) :
    ofTree? (Tree.ofJson s.encode) = some s := by
  have hkeys := s.toStep.keys_nodup
  rw [ofTree?, encode, Step.action?_encode hs]
  simp only [Option.bind_eq_bind, Option.bind_some]
  have hshell : s.toStep.action = "Shell" := rfl
  rw [if_pos hshell, StepHeader.ofRecord?_of_lookup hs.header hkeys fun k => s.toStep.lookup_header,
    StepBody.shell?_of_lookup hs.body hkeys fun k => s.toStep.lookup_body]
  rfl

end RolloutPlan
