import RolloutPlan.Pipeline.Value

/-!
# Steps

A step has a header that all kinds share and a body that belongs to its kind. For the order of the
steps it matters which other steps it names as its dependencies, and which ones its values read from.

* `StepHeader`, the bodies from `ArmDeployment` to `LogsSetup`, `StepBody`, `Step`.
* `StepBody.tracedValues`: the values whose inputs order the step.
* `Step.requiredInputs`, `Step.dependencySet`: the steps that have to come before.
-/

namespace RolloutPlan

/-! ## What steps consist of -/

/-- How often a failing step is tried again. -/
structure AutomatedRetry where
  errorContainsAny : List String := []
  maximumRetries : Nat
  durationBetweenRetries : Option String := none
deriving DecidableEq

/-- What steps of every kind have. -/
structure StepHeader where
  name : String
  dependsOn : List StepReference := []
  externalDependsOn : List ExternalStepReference := []
  automatedRetry : Option AutomatedRetry := none
deriving DecidableEq

/-- Deploys a template. -/
structure ArmDeployment where
  bindings : List Variable := []
  template : String := ""
  parameters : String := ""
  deploymentLevel : String := ""
  outputOnly : Bool := false
  deploymentMode : String := ""

/-- What a shell command does when nothing may be changed. -/
structure DryRun where
  bindings : List Variable := []
  command : String := ""

/-- A file that a shell command finds through a variable. -/
structure FileReference where
  name : String
  filePath : String
deriving DecidableEq

/-- Runs a command. -/
structure ShellCommand where
  command : String := ""
  bindings : List Variable := []
  dryRun : DryRun := {}
  references : List FileReference := []
  subnetId : String := ""
  shellIdentity : Value := {}

/-- Installs a chart on a cluster. -/
structure HelmRelease where
  releaseName : String := ""
  releaseNamespace : String := ""
  chartDir : String := ""
  valuesFile : String := ""
  aksCluster : Value := {}
  identityFrom : Value := {}
  bindings : List Variable := []

/-- Delegates a name zone to one below it. -/
structure ZoneDelegation where
  parentZone : Value := {}
  childZone : Value := {}

/-- Lets a vault use an issuer of certificates. -/
structure IssuerAssignment where
  vaultBaseUrl : Value := {}
  issuer : Value := {}
  secretKeyVault : Value := {}
  secretName : Value := {}
  applicationId : Value := {}

/-- Creates a certificate in a vault. -/
structure CertificateRequest where
  vaultBaseUrl : Value := {}
  certificateName : Value := {}
  contentType : Value := {}
  san : Value := {}
  issuer : Value := {}
  secretKeyVault : Value := {}
  secretName : Value := {}
  applicationId : Value := {}
  commonName : Value := {}

/-- Registers the resource providers of a subscription. -/
structure ProviderRegistration where
  resourceProviderNamespaces : Value := {}

/-- Copies an image into a registry. -/
structure ImageMirror where
  targetAcr : Value := {}
  sourceRegistry : Value := {}
  repository : Value := {}
  digest : Value := {}
  copyFrom : String := ""
  imageFilePath : Value := {}
  imageTarFileName : Value := {}
  imageMetadataFileName : Value := {}
  pullSecretKeyVault : Value := {}
  pullSecretName : Value := {}
  shellIdentity : Value := {}
  adoProject : Value := {}
  artifactName : Value := {}
  buildId : Value := {}

/-- Sets up where logs go. -/
structure LogsSetup where
  subscriptionId : Value := {}
  logNamespace : Value := {}
  certSan : Value := {}
  certDescription : Value := {}
  configVersion : Value := {}

/-- What a step does. -/
inductive StepBody where
  | arm (b : ArmDeployment)
  | shell (b : ShellCommand)
  | helm (b : HelmRelease)
  | delegateChildZone (b : ZoneDelegation)
  | setCertificateIssuer (b : IssuerAssignment)
  | createCertificate (b : CertificateRequest)
  | resourceProviderRegistration (b : ProviderRegistration)
  | imageMirror (b : ImageMirror)
  | logs (b : LogsSetup)

/-- A step of a pipeline. -/
structure Step where
  header : StepHeader
  body : StepBody

/-- A step that checks a service after the rollout. -/
structure ValidationStep where
  header : StepHeader
  shell : ShellCommand

def ValidationStep.toStep (s : ValidationStep) : Step := ⟨s.header, .shell s.shell⟩

/-! ## Bodies -/

namespace StepBody

def action : StepBody → String
  | .arm _ => "ARM"
  | .shell _ => "Shell"
  | .helm _ => "Helm"
  | .delegateChildZone _ => "DelegateChildZone"
  | .setCertificateIssuer _ => "SetCertificateIssuer"
  | .createCertificate _ => "CreateCertificate"
  | .resourceProviderRegistration _ => "ResourceProviderRegistration"
  | .imageMirror _ => "ImageMirror"
  | .logs _ => "Logs"

def tracedValues : StepBody → List Value
  | .arm b => b.bindings.map (·.value)
  | .shell b =>
    b.bindings.map (·.value) ++ b.dryRun.bindings.map (·.value) ++ [b.shellIdentity]
  | .helm b => b.bindings.map (·.value) ++ [b.aksCluster, b.identityFrom]
  | .delegateChildZone b => [b.parentZone, b.childZone]
  | .setCertificateIssuer b =>
    [b.vaultBaseUrl, b.issuer, b.secretKeyVault, b.secretName, b.applicationId]
  | .createCertificate b =>
    [b.vaultBaseUrl, b.certificateName, b.contentType, b.san, b.issuer, b.secretKeyVault,
      b.secretName, b.applicationId, b.commonName]
  | .resourceProviderRegistration b => [b.resourceProviderNamespaces]
  | .imageMirror b =>
    [b.targetAcr, b.sourceRegistry, b.repository, b.digest, b.imageFilePath, b.imageTarFileName,
      b.imageMetadataFileName, b.pullSecretKeyVault, b.pullSecretName, b.shellIdentity]
  | .logs b => [b.subscriptionId, b.logNamespace, b.certSan, b.certDescription, b.configVersion]

/-- Whether the inputs say everything that the step reads. A command can read anything, and so does
copying an image from a directory. -/
def isWellFormed : StepBody → Bool
  | .shell _ => false
  | .imageMirror b => b.copyFrom ≠ "oci-layout"
  | _ => true

/-- The lines of a description after the name and the kind. -/
def details : StepBody → List String
  | .arm b => ["Template: " ++ b.template, "Parameters: " ++ b.parameters]
  | .shell b => ["Command: " ++ b.command]
  | .helm b =>
    ["Release: " ++ b.releaseNamespace ++ "/" ++ b.releaseName, "Chart: " ++ b.chartDir]
  | .delegateChildZone b => ["Parent: " ++ b.parentZone.describe, "Child: " ++ b.childZone.describe]
  | .resourceProviderRegistration b =>
    ["Namespaces: " ++ b.resourceProviderNamespaces.describe]
  | .imageMirror b =>
    ["From " ++ b.sourceRegistry.describe ++ ":" ++ b.repository.describe ++ "@" ++
      b.digest.describe ++ " to " ++ b.targetAcr.describe]
  | .setCertificateIssuer _ => []
  | .createCertificate _ => []
  | .logs _ => []

end StepBody

/-! ## Steps -/

namespace Step

def name (s : Step) : String := s.header.name

def action (s : Step) : String := s.body.action

def requiredInputs (s : Step) : List StepReference := inputsOf s.body.tracedValues

/-- The steps that have to come before: those that the step names and those that its values read
from, each once and in increasing order. -/
def dependencySet (s : Step) : List StepReference :=
  Sorted.ofList (s.header.dependsOn ++ s.requiredInputs)

def description (s : Step) : String :=
  "\n  ".intercalate
    (("Step " ++ s.name) :: ("Kind: " ++ s.action) :: s.body.details)

end Step

end RolloutPlan
