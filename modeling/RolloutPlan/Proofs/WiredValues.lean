import RolloutPlan.Proofs.Dependency

/-!
# Values that are wired to other steps

A value that reads an output of another step makes its own step wait for the other one, if the order of
the steps follows the field that the value stands in. Three fields of a mirrored image are not followed.

* `StepBody.values`: every value of a body. `StepBody.values_perm`: they are the traced values and the
  untraced ones.
* `Value.ReadsFrom`, `mem_inputsOf`: the steps that values read from.
* `Step.waits_for_inputs_iff`: when a step waits for everything that its values read from.
-/

namespace RolloutPlan

set_option autoImplicit false

/-! ## Inputs -/

/-- A value is an output of a step. -/
def Value.ReadsFrom (v : Value) (r : StepReference) : Prop := ∃ i, v.input = some i ∧ i.step = r

@[simp] theorem mem_inputsOf {l : List Value} {r : StepReference} :
    r ∈ inputsOf l ↔ ∃ v ∈ l, v.ReadsFrom r := by
  simp only [inputsOf, Sorted.mem_ofList, List.mem_filterMap, Option.map_eq_some_iff,
    Value.ReadsFrom]

namespace StepBody

/-! ## The values of a body -/

/-- Every value of a body, in the order of its fields. -/
def values : StepBody → List Value
  | .arm b => b.bindings.map (·.value)
  | .shell b =>
    b.bindings.map (·.value) ++ b.dryRun.bindings.map (·.value) ++ [b.shellIdentity]
  | .helm b => [b.aksCluster, b.identityFrom] ++ b.bindings.map (·.value)
  | .delegateChildZone b => [b.parentZone, b.childZone]
  | .setCertificateIssuer b =>
    [b.vaultBaseUrl, b.issuer, b.secretKeyVault, b.secretName, b.applicationId]
  | .createCertificate b =>
    [b.vaultBaseUrl, b.certificateName, b.contentType, b.san, b.issuer, b.secretKeyVault,
      b.secretName, b.applicationId, b.commonName]
  | .resourceProviderRegistration b => [b.resourceProviderNamespaces]
  | .imageMirror b =>
    [b.targetAcr, b.sourceRegistry, b.repository, b.digest, b.imageFilePath, b.imageTarFileName,
      b.imageMetadataFileName, b.pullSecretKeyVault, b.pullSecretName, b.shellIdentity,
      b.adoProject, b.artifactName, b.buildId]
  | .logs b => [b.subscriptionId, b.logNamespace, b.certSan, b.certDescription, b.configVersion]

/-- The values whose inputs do not order the step. -/
def untracedValues : StepBody → List Value
  | .imageMirror b => [b.adoProject, b.artifactName, b.buildId]
  | _ => []

theorem values_perm (b : StepBody) : b.values.Perm (b.tracedValues ++ b.untracedValues) := by
  cases b with
  | helm b =>
    simp only [values, tracedValues, untracedValues, List.append_nil]
    exact List.perm_append_comm
  | imageMirror b => exact .refl _
  | _ => simp only [values, tracedValues, untracedValues, List.append_nil, List.Perm.refl]

theorem mem_values {b : StepBody} {v : Value} :
    v ∈ b.values ↔ v ∈ b.tracedValues ∨ v ∈ b.untracedValues := by
  rw [b.values_perm.mem_iff, List.mem_append]

end StepBody

/-! ## What a step waits for -/

namespace Step

theorem mem_requiredInputs {s : Step} {r : StepReference} :
    r ∈ s.requiredInputs ↔ ∃ v ∈ s.body.tracedValues, v.ReadsFrom r := mem_inputsOf

theorem mem_dependencySet_of_mem_requiredInputs {s : Step} {r : StepReference}
    (h : r ∈ s.requiredInputs) : r ∈ s.dependencySet :=
  mem_dependencySet.2 (.inr h)

/-- A step waits for everything that its values read from when its untraced values read only from what
the traced ones read from. It waits for nothing else but what it names. -/
theorem waits_for_inputs_iff (s : Step) :
    ((∀ v ∈ s.body.values, ∀ r, v.ReadsFrom r → r ∈ s.requiredInputs ∧ r ∈ s.dependencySet) ↔
      ∀ v ∈ s.body.untracedValues, ∀ r, v.ReadsFrom r →
        ∃ w ∈ s.body.tracedValues, w.ReadsFrom r) ∧
    (∀ v ∈ s.body.tracedValues, ∀ r, v.ReadsFrom r →
      r ∈ s.requiredInputs ∧ r ∈ s.dependencySet) ∧
    ∀ r ∈ s.dependencySet, r ∈ s.header.dependsOn ∨ ∃ v ∈ s.body.values, v.ReadsFrom r := by
  have htraced : ∀ v ∈ s.body.tracedValues, ∀ r, v.ReadsFrom r →
      r ∈ s.requiredInputs ∧ r ∈ s.dependencySet := by
    intro v hv r hr
    have hrequired : r ∈ s.requiredInputs := mem_requiredInputs.2 ⟨v, hv, hr⟩
    exact ⟨hrequired, mem_dependencySet_of_mem_requiredInputs hrequired⟩
  refine ⟨?_, htraced, ?_⟩
  · constructor
    · intro h v hv r hr
      exact mem_requiredInputs.1 (h v (StepBody.mem_values.2 (.inr hv)) r hr).1
    · intro h v hv r hr
      rcases StepBody.mem_values.1 hv with hv | hv
      · exact htraced v hv r hr
      · obtain ⟨w, hw, hr⟩ := h v hv r hr
        exact htraced w hw r hr
  · intro r hr
    refine (mem_dependencySet.1 hr).imp_right fun hr => ?_
    obtain ⟨v, hv, hr⟩ := mem_requiredInputs.1 hr
    exact ⟨v, StepBody.mem_values.2 (.inl hv), hr⟩

/-- Mirrors the image of a build that another step names. -/
def mirrorOfBuild : Step where
  header := { name := "mirror" }
  body := .imageMirror { buildId := { input := some ⟨"id", ⟨"global", "build"⟩⟩ } }

/-- The step does not wait for the one that it reads the build from. -/
theorem mirrorOfBuild_does_not_wait : ∃ v ∈ mirrorOfBuild.body.values,
    v.ReadsFrom ⟨"global", "build"⟩ ∧ ⟨"global", "build"⟩ ∉ mirrorOfBuild.requiredInputs ∧
      ⟨"global", "build"⟩ ∉ mirrorOfBuild.dependencySet := by
  refine ⟨{ input := some ⟨"id", ⟨"global", "build"⟩⟩ }, ?_, ⟨_, rfl, rfl⟩, ?_, ?_⟩
  · simp [mirrorOfBuild, StepBody.values]
  · decide
  · decide

end Step

end RolloutPlan
