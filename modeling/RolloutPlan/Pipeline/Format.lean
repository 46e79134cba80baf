import RolloutPlan.Pipeline.Basic
import RolloutPlan.Topology.Format
import RolloutPlan.Yaml.Encoding

/-!
# Reading and writing pipelines

The texts of a pipeline itself, its steps and the parts of subscription requests are read directly
from the tree of a document. What a resource group says about its target, and everything inside of a
step, is interpreted first and then read as data.

* `Step.ofTree?`, `ResourceGroup.ofTree?`, `Pipeline.ofTree?` and their parts: reading.
* `Step.encode`, `ResourceGroup.encode`, `Pipeline.encode` and their parts: writing.
-/

namespace RolloutPlan

open Yaml

/-! ## Reading values -/

namespace StepReference

def ofRecord? (r : Record Datum) : Option StepReference := do
  return ⟨← r.required "resourceGroup" Datum.text?, ← r.required "step" Datum.text?⟩

def ofDatum? (d : Datum) : Option StepReference := do
  ofRecord? (← d.record? ["resourceGroup", "step"])

end StepReference

def ExternalStepReference.ofDatum? (d : Datum) : Option ExternalStepReference := do
  let r ← d.record? ["serviceGroup", "resourceGroup", "step"]
  return {
    serviceGroup := ← r.required "serviceGroup" Datum.text?
    resourceGroup := ← r.required "resourceGroup" Datum.text?
    step := ← r.required "step" Datum.text? }

/-- The entries of a tree that a structure reads itself, and all others as data. -/
def Yaml.Tree.split? (own : List String) (t : Tree) :
    Option (Record Tree × Record Datum) := do
  let r ← t.record?
  let rest ← (r.filter fun e => !own.contains e.1).mapM fun (k, v) => do return (k, ← v.content?)
  return (r.filter fun e => own.contains e.1, rest)

namespace Input

def ofDatum? (d : Datum) : Option Input := do
  let r ← d.keyed
  return ⟨← r.required "name" Datum.text?, ← StepReference.ofRecord? r⟩

def ofTree? (t : Tree) : Option Input := do
  let (own, rest) ← t.split? ["name"]
  return ⟨← own.required "name" Tree.text?, ← StepReference.ofRecord? rest⟩

end Input

/-- A free-form value in which no mapping has a key twice. -/
def Yaml.Datum.literal? (d : Datum) : Option Datum :=
  if d.wellKeyed then some d else none

namespace Value

def ofRecord? (r : Record Datum) : Option Value := do
  return {
    literal := ← r.optional "value" (Datum.optional? Datum.literal?)
    configRef := ← r.optional "configRef" (Datum.optional? Datum.text?)
    input := ← r.optional "input" (Datum.optional? Input.ofDatum?) }

def ofDatum? (d : Datum) : Option Value := do
  ofRecord? (← d.record? ["value", "configRef", "input"])

def ofTree? (t : Tree) : Option Value := do
  let r ← t.record?
  return {
    literal := ← r.optional "value" (Tree.optional? Tree.literal?)
    configRef := ← r.optional "configRef" (Tree.optional? Tree.text?)
    input := ← r.optional "input" (Tree.optional? Input.ofTree?) }

def read? (text : String) : Option Value :=
  (Tree.ofText? text).bind ofTree?

end Value

def Variable.ofDatum? (d : Datum) : Option Variable := do
  let r ← d.keyed
  return ⟨← r.required "name" Datum.text?, ← Value.ofRecord? r⟩

/-! ## Reading steps -/

def AutomatedRetry.ofDatum? (d : Datum) : Option AutomatedRetry := do
  let r ← d.record? ["errorContainsAny", "maximumRetries", "durationBetweenRetries"]
  return {
    errorContainsAny := ← r.withDefault "errorContainsAny" [] (Datum.list? Datum.text?)
    maximumRetries := ← r.required "maximumRetries" Datum.count?
    durationBetweenRetries := ← r.optional "durationBetweenRetries"
      (Datum.optional? Datum.text?) }

def StepHeader.ofRecord? (r : Record Datum) : Option StepHeader := do
  return {
    name := ← r.required "name" Datum.text?
    dependsOn := ← r.withDefault "dependsOn" [] (Datum.list? StepReference.ofDatum?)
    externalDependsOn := ← r.withDefault "externalDependsOn" []
      (Datum.list? ExternalStepReference.ofDatum?)
    automatedRetry := ← r.optional "automatedRetry" (Datum.optional? AutomatedRetry.ofDatum?) }

def DryRun.ofDatum? (d : Datum) : Option DryRun := do
  let r ← d.record? ["variables", "command"]
  return {
    bindings := ← r.withDefault "variables" [] (Datum.list? Variable.ofDatum?)
    command := ← r.withDefault "command" "" Datum.text? }

def FileReference.ofDatum? (d : Datum) : Option FileReference := do
  let r ← d.record? ["name", "filepath"]
  return ⟨← r.required "name" Datum.text?, ← r.required "filepath" Datum.text?⟩

namespace StepBody

/-- A text that is empty where it is not written. -/
def text? (r : Record Datum) (key : String) : Option String := r.withDefault key "" Datum.text?

/-- A value that says nothing where it is not written. -/
def value? (r : Record Datum) (key : String) : Option Value := r.withDefault key {} Value.ofDatum?

def bindings? (r : Record Datum) : Option (List Variable) :=
  r.withDefault "variables" [] (Datum.list? Variable.ofDatum?)

def arm? (r : Record Datum) : Option ArmDeployment := do
  return {
    bindings := ← bindings? r
    template := ← text? r "template"
    parameters := ← text? r "parameters"
    deploymentLevel := ← text? r "deploymentLevel"
    outputOnly := ← r.withDefault "outputOnly" false Datum.flag?
    deploymentMode := ← text? r "deploymentMode" }

def shell? (r : Record Datum) : Option ShellCommand := do
  return {
    command := ← text? r "command"
    bindings := ← bindings? r
    dryRun := ← r.withDefault "dryRun" {} DryRun.ofDatum?
    references := ← r.withDefault "references" [] (Datum.list? FileReference.ofDatum?)
    subnetId := ← text? r "subnetId"
    shellIdentity := ← value? r "shellIdentity" }

def helm? (r : Record Datum) : Option HelmRelease := do
  return {
    releaseName := ← text? r "releaseName"
    releaseNamespace := ← text? r "releaseNamespace"
    chartDir := ← text? r "chartDir"
    valuesFile := ← text? r "valuesFile"
    aksCluster := ← value? r "aksCluster"
    identityFrom := ← value? r "identityFrom"
    bindings := ← bindings? r }

def delegateChildZone? (r : Record Datum) : Option ZoneDelegation := do
  return ⟨← value? r "parentZone", ← value? r "childZone"⟩

def setCertificateIssuer? (r : Record Datum) : Option IssuerAssignment := do
  return {
    vaultBaseUrl := ← value? r "vaultBaseUrl"
    issuer := ← value? r "issuer"
    secretKeyVault := ← value? r "secretKeyVault"
    secretName := ← value? r "secretName"
    applicationId := ← value? r "applicationId" }

def createCertificate? (r : Record Datum) : Option CertificateRequest := do
  return {
    vaultBaseUrl := ← value? r "vaultBaseUrl"
    certificateName := ← value? r "certificateName"
    contentType := ← value? r "contentType"
    san := ← value? r "san"
    issuer := ← value? r "issuer"
    secretKeyVault := ← value? r "secretKeyVault"
    secretName := ← value? r "secretName"
    applicationId := ← value? r "applicationId"
    commonName := ← value? r "commonName" }

def resourceProviderRegistration? (r : Record Datum) : Option ProviderRegistration := do
  return ⟨← value? r "resourceProviderNamespaces"⟩

def imageMirror? (r : Record Datum) : Option ImageMirror := do
  return {
    targetAcr := ← value? r "targetACR"
    sourceRegistry := ← value? r "sourceRegistry"
    repository := ← value? r "repository"
    digest := ← value? r "digest"
    copyFrom := ← text? r "copyFrom"
    imageFilePath := ← value? r "imageFilePath"
    imageTarFileName := ← value? r "imageTarFileName"
    imageMetadataFileName := ← value? r "imageMetadataFileName"
    pullSecretKeyVault := ← value? r "pullSecretKeyVault"
    pullSecretName := ← value? r "pullSecretName"
    shellIdentity := ← value? r "shellIdentity"
    adoProject := ← value? r "adoProject"
    artifactName := ← value? r "artifactName"
    buildId := ← value? r "buildId" }

def logs? (r : Record Datum) : Option LogsSetup := do
  return {
    subscriptionId := ← value? r "subscriptionId"
    logNamespace := ← value? r "namespace"
    certSan := ← value? r "certsan"
    certDescription := ← value? r "certdescription"
    configVersion := ← value? r "configVersion" }

/-- The body of a step whose kind has a given name. -/
def ofRecord? (action : String) (r : Record Datum) : Option StepBody :=
  match action with
  | "ARM" => .arm <$> arm? r
  | "Shell" => .shell <$> shell? r
  | "Helm" => .helm <$> helm? r
  | "DelegateChildZone" => .delegateChildZone <$> delegateChildZone? r
  | "SetCertificateIssuer" => .setCertificateIssuer <$> setCertificateIssuer? r
  | "CreateCertificate" => .createCertificate <$> createCertificate? r
  | "ResourceProviderRegistration" =>
    .resourceProviderRegistration <$> resourceProviderRegistration? r
  | "ImageMirror" => .imageMirror <$> imageMirror? r
  | "Logs" => .logs <$> logs? r
  | _ => none

end StepBody

/-- The kind that a step is tagged with, which is read directly, and everything else as data. -/
def Yaml.Tree.action? : Tree → Option (String × Record Datum)
  | .mapping tag entries => do
    if (localTag? tag).isSome then none
    let keyed ← entries.mapM fun (k, v) => do return (← k.content?, v)
    let isAction (e : Datum × Tree) : Bool := e.1.text? = some "action"
    match keyed.filter isAction with
    | [(_, v)] =>
      let rest ← (keyed.filter (!isAction ·)).mapM fun (k, v) => do return (k, ← v.content?)
      return (← v.text?, ← Datum.keyed? rest)
    | _ => none
  | _ => none

def Step.ofTree? (t : Tree) : Option Step := do
  let (action, r) ← t.action?
  return ⟨← StepHeader.ofRecord? r, ← StepBody.ofRecord? action r⟩

def ValidationStep.ofTree? (t : Tree) : Option ValidationStep := do
  let (action, r) ← t.action?
  if action = "Shell" then
    return ⟨← StepHeader.ofRecord? r, ← StepBody.shell? r⟩
  else none

def Step.read? (text : String) : Option Step :=
  (Tree.ofText? text).bind Step.ofTree?

def ValidationStep.read? (text : String) : Option ValidationStep :=
  (Tree.ofText? text).bind ValidationStep.ofTree?

/-! ## Reading pipelines -/

namespace ExecutionConstraint

def ofDatum? (d : Datum) : Option ExecutionConstraint := do
  let r ← d.record? ["singleton", "clouds", "environments", "regions"]
  return {
    singleton := ← r.withDefault "singleton" false Datum.flag?
    clouds := ← r.withDefault "clouds" [] (Datum.list? Datum.text?)
    environments := ← r.withDefault "environments" [] (Datum.list? Datum.text?)
    regions := ← r.withDefault "regions" [] (Datum.list? Datum.text?) }

def ofTree? (t : Tree) : Option ExecutionConstraint := do
  let r ← t.record?
  return {
    singleton := ← r.withDefault "singleton" false Tree.flag?
    clouds := ← r.withDefault "clouds" [] (Tree.list? Tree.text?)
    environments := ← r.withDefault "environments" [] (Tree.list? Tree.text?)
    regions := ← r.withDefault "regions" [] (Tree.list? Tree.text?) }

def readAll? (text : String) : Option (List ExecutionConstraint) :=
  (Tree.ofText? text).bind (Tree.list? ofTree?)

end ExecutionConstraint

def ResourceGroupTarget.ofRecord? (r : Record Datum) : Option ResourceGroupTarget := do
  return {
    name := ← r.required "name" Datum.text?
    resourceGroup := ← r.required "resourceGroup" Datum.text?
    subscription := ← r.required "subscription" Datum.text?
    executionConstraints := ← r.withDefault "executionConstraints" []
      (Datum.list? ExecutionConstraint.ofDatum?) }

def SubscriptionProvisioning.ofTree? (t : Tree) : Option SubscriptionProvisioning := do
  let r ← t.record?
  return {
    displayName := ← r.required "displayName" Value.ofTree?
    airsRegisteredUserPrincipalId := ← r.optional "airsRegisteredUserPrincipalId"
      (Tree.optional? Value.ofTree?)
    certificateDomains := ← r.optional "certificateDomains" (Tree.optional? Value.ofTree?) }

def ResourceGroup.ofTree? (t : Tree) : Option ResourceGroup := do
  let (own, rest) ← t.split? ["subscriptionProvisioning", "steps", "validationSteps"]
  return {
    target := ← ResourceGroupTarget.ofRecord? rest
    subscriptionProvisioning := ← own.optional "subscriptionProvisioning"
      (Tree.optional? SubscriptionProvisioning.ofTree?)
    steps := ← own.withDefault "steps" [] (Tree.list? Step.ofTree?)
    validationSteps := ← own.withDefault "validationSteps" []
      (Tree.list? ValidationStep.ofTree?) }

def BuildStep.ofTree? (t : Tree) : Option BuildStep := do
  let r ← t.record?
  return {
    command := ← r.required "command" Tree.text?
    args := ← r.withDefault "args" [] (Tree.list? Tree.text?) }

def Pipeline.ofTree? (t : Tree) : Option Pipeline := do
  let r ← t.record?
  return {
    schema := ← r.optional "$schema" (Tree.optional? Tree.text?)
    serviceGroup := ← r.required "serviceGroup" Tree.text?
    rolloutName := ← r.withDefault "rolloutName" "" Tree.text?
    resourceGroups := ← r.withDefault "resourceGroups" [] (Tree.list? ResourceGroup.ofTree?)
    buildStep := ← r.optional "buildStep" (Tree.optional? BuildStep.ofTree?) }

def Pipeline.read? (text : String) : Option Pipeline :=
  (Tree.ofText? text).bind Pipeline.ofTree?

/-! ## Writing values -/

/-- A member of an object for what is there. -/
def Json.present {α : Type} (key : String) (encode : α → Json) (a : Option α) :
    List (String × Json) :=
  (a.map fun a => (key, encode a)).toList

/-- A member of an object for a list that is not empty. -/
def Json.nonempty {α : Type} (key : String) (encode : α → Json) (l : List α) :
    List (String × Json) :=
  if l.isEmpty then [] else [(key, .array (l.map encode))]

def StepReference.encode (r : StepReference) : Json :=
  .object [("resourceGroup", .string r.resourceGroup), ("step", .string r.step)]

def ExternalStepReference.encode (r : ExternalStepReference) : Json :=
  .object [("serviceGroup", .string r.serviceGroup), ("resourceGroup", .string r.resourceGroup),
    ("step", .string r.step)]

def Input.encode (i : Input) : Json :=
  .object [("name", .string i.name), ("resourceGroup", .string i.step.resourceGroup),
    ("step", .string i.step.step)]

def Value.members (v : Value) : List (String × Json) :=
  Json.present "value" Datum.encode v.literal ++ Json.presentText "configRef" v.configRef ++
    Json.present "input" Input.encode v.input

def Value.encode (v : Value) : Json := .object v.members

def Variable.encode (v : Variable) : Json :=
  .object (("name", .string v.name) :: v.value.members)

def Json.bindings (l : List Variable) : Json := .array (l.map Variable.encode)

/-! ## Writing steps -/

def AutomatedRetry.encode (r : AutomatedRetry) : Json :=
  .object (Json.nonempty "errorContainsAny" .string r.errorContainsAny ++
    ("maximumRetries", .integer r.maximumRetries) ::
      Json.presentText "durationBetweenRetries" r.durationBetweenRetries)

def StepHeader.members (h : StepHeader) : List (String × Json) :=
  ("name", .string h.name) ::
    (Json.nonempty "dependsOn" StepReference.encode h.dependsOn ++
      Json.nonempty "externalDependsOn" ExternalStepReference.encode h.externalDependsOn ++
      Json.present "automatedRetry" AutomatedRetry.encode h.automatedRetry)

def DryRun.encode (d : DryRun) : Json :=
  .object [("variables", Json.bindings d.bindings), ("command", .string d.command)]

def FileReference.encode (r : FileReference) : Json :=
  .object [("name", .string r.name), ("filepath", .string r.filePath)]

def ShellCommand.members (b : ShellCommand) : List (String × Json) :=
  [("command", .string b.command), ("variables", Json.bindings b.bindings),
    ("dryRun", b.dryRun.encode), ("references", .array (b.references.map FileReference.encode)),
    ("subnetId", .string b.subnetId), ("shellIdentity", b.shellIdentity.encode)]

def StepBody.members : StepBody → List (String × Json)
  | .arm b =>
    [("variables", Json.bindings b.bindings), ("template", .string b.template),
      ("parameters", .string b.parameters), ("deploymentLevel", .string b.deploymentLevel),
      ("outputOnly", .bool b.outputOnly), ("deploymentMode", .string b.deploymentMode)]
  | .shell b => b.members
  | .helm b =>
    [("releaseName", .string b.releaseName), ("releaseNamespace", .string b.releaseNamespace),
      ("chartDir", .string b.chartDir), ("valuesFile", .string b.valuesFile),
      ("aksCluster", b.aksCluster.encode), ("identityFrom", b.identityFrom.encode),
      ("variables", Json.bindings b.bindings)]
  | .delegateChildZone b =>
    [("parentZone", b.parentZone.encode), ("childZone", b.childZone.encode)]
  | .setCertificateIssuer b =>
    [("vaultBaseUrl", b.vaultBaseUrl.encode), ("issuer", b.issuer.encode),
      ("secretKeyVault", b.secretKeyVault.encode), ("secretName", b.secretName.encode),
      ("applicationId", b.applicationId.encode)]
  | .createCertificate b =>
    [("vaultBaseUrl", b.vaultBaseUrl.encode), ("certificateName", b.certificateName.encode),
      ("contentType", b.contentType.encode), ("san", b.san.encode), ("issuer", b.issuer.encode),
      ("secretKeyVault", b.secretKeyVault.encode), ("secretName", b.secretName.encode),
      ("applicationId", b.applicationId.encode), ("commonName", b.commonName.encode)]
  | .resourceProviderRegistration b =>
    [("resourceProviderNamespaces", b.resourceProviderNamespaces.encode)]
  | .imageMirror b =>
    [("targetACR", b.targetAcr.encode), ("sourceRegistry", b.sourceRegistry.encode),
      ("repository", b.repository.encode), ("digest", b.digest.encode),
      ("copyFrom", .string b.copyFrom), ("imageFilePath", b.imageFilePath.encode),
      ("imageTarFileName", b.imageTarFileName.encode),
      ("imageMetadataFileName", b.imageMetadataFileName.encode),
      ("pullSecretKeyVault", b.pullSecretKeyVault.encode),
      ("pullSecretName", b.pullSecretName.encode), ("shellIdentity", b.shellIdentity.encode),
      ("adoProject", b.adoProject.encode), ("artifactName", b.artifactName.encode),
      ("buildId", b.buildId.encode)]
  | .logs b =>
    [("subscriptionId", b.subscriptionId.encode), ("namespace", b.logNamespace.encode),
      ("certsan", b.certSan.encode), ("certdescription", b.certDescription.encode),
      ("configVersion", b.configVersion.encode)]

def Step.encode (s : Step) : Json :=
  .object (("action", .string s.action) :: (s.header.members ++ s.body.members))

def ValidationStep.encode (s : ValidationStep) : Json := s.toStep.encode

/-! ## Writing pipelines -/

def ExecutionConstraint.encode (c : ExecutionConstraint) : Json :=
  .object [("singleton", .bool c.singleton), ("clouds", .strings c.clouds),
    ("environments", .strings c.environments), ("regions", .strings c.regions)]

def ResourceGroupTarget.members (t : ResourceGroupTarget) : List (String × Json) :=
  [("name", .string t.name), ("resourceGroup", .string t.resourceGroup),
    ("subscription", .string t.subscription)] ++
    Json.nonempty "executionConstraints" ExecutionConstraint.encode t.executionConstraints

def SubscriptionProvisioning.encode (s : SubscriptionProvisioning) : Json :=
  .object (("displayName", s.displayName.encode) ::
    (Json.present "airsRegisteredUserPrincipalId" Value.encode s.airsRegisteredUserPrincipalId ++
      Json.present "certificateDomains" Value.encode s.certificateDomains))

def ResourceGroup.encode (g : ResourceGroup) : Json :=
  .object (g.target.members ++
    Json.present "subscriptionProvisioning" SubscriptionProvisioning.encode
      g.subscriptionProvisioning ++
    ("steps", .array (g.steps.map Step.encode)) ::
      Json.nonempty "validationSteps" ValidationStep.encode g.validationSteps)

def BuildStep.encode (b : BuildStep) : Json :=
  .object [("command", .string b.command), ("args", .strings b.args)]

def Pipeline.encode (p : Pipeline) : Json :=
  .object (Json.presentText "$schema" p.schema ++
    [("serviceGroup", .string p.serviceGroup), ("rolloutName", .string p.rolloutName),
      ("resourceGroups", .array (p.resourceGroups.map ResourceGroup.encode))] ++
    Json.present "buildStep" BuildStep.encode p.buildStep)

end RolloutPlan
