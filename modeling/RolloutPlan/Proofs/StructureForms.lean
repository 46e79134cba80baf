import RolloutPlan.Pipeline.Format
import RolloutPlan.Proofs.WrittenTree

/-!
# The forms of structures in a document

Which mappings of a document are read as structures, which fields these structures know, and which of the
fields hold structures again. What a field holds is read directly or as data; free-form values and
metadata are no structures.

* `DataForm`, `TreeForm`: the structures that are read as data, and those that are read directly.
* `Shape`: a field that holds a structure, or a list of them.
* `DataForm.fields`, `TreeForm.directFields`, `TreeForm.dataFields`: the fields that are known.
* `Form.fieldName?`: the field that a key names.
* `Rearranged`: trees that differ in the order of keys and in keys that nobody knows.
-/

namespace RolloutPlan

open Yaml

set_option autoImplicit false

/-- What is written for a field: something without inner structures, a structure, or a list of them. -/
inductive Shape (φ : Type) where
  | leaf
  | one (f : φ)
  | many (f : φ)

def Shape.map {φ ψ : Type} (g : φ → ψ) : Shape φ → Shape ψ
  | .leaf => .leaf
  | .one f => .one (g f)
  | .many f => .many (g f)

/-- The fields of a structure with what is written for them. -/
abbrev FieldTable (φ : Type) := List (String × Shape φ)

/-! ## Structures that are read as data -/

inductive DataForm where
  | stepReference
  | externalStepReference
  | input
  | value
  | namedValue
  | automatedRetry
  | dryRun
  | fileReference
  | executionConstraint

def leafFields (keys : List String) : FieldTable DataForm := keys.map (·, .leaf)

def valueFields (keys : List String) : FieldTable DataForm := keys.map (·, .one .value)

namespace DataForm

def fields : DataForm → FieldTable DataForm
  | .stepReference => leafFields ["resourceGroup", "step"]
  | .externalStepReference => leafFields ["serviceGroup", "resourceGroup", "step"]
  | .input => leafFields ["name", "resourceGroup", "step"]
  | .value => [("value", .leaf), ("configRef", .leaf), ("input", .one .input)]
  | .namedValue => [("name", .leaf), ("value", .leaf), ("configRef", .leaf), ("input", .one .input)]
  | .automatedRetry => leafFields ["errorContainsAny", "maximumRetries", "durationBetweenRetries"]
  | .dryRun => [("variables", .many .namedValue), ("command", .leaf)]
  | .fileReference => leafFields ["name", "filepath"]
  | .executionConstraint => leafFields ["singleton", "clouds", "environments", "regions"]

/-- The fields in the order in which they may be written as a list. A structure that shares some of its
fields with others cannot be written so. -/
def positions : DataForm → List String
  | .input => []
  | .namedValue => []
  | f => f.fields.map (·.1)

end DataForm

/-! ## Structures that are read directly -/

inductive TreeForm where
  | topology
  | service
  | entrypoint
  | pipeline
  | buildStep
  | resourceGroup
  | subscriptionProvisioning
  | value
  | input
  | step
  | validationStep

def StepHeader.fields : FieldTable DataForm :=
  [("name", .leaf), ("dependsOn", .many .stepReference),
    ("externalDependsOn", .many .externalStepReference), ("automatedRetry", .one .automatedRetry)]

/-- The fields of the body of a step whose kind has a given name. -/
def StepBody.fields : String → FieldTable DataForm
  | "ARM" =>
    ("variables", .many .namedValue) ::
      leafFields ["template", "parameters", "deploymentLevel", "outputOnly", "deploymentMode"]
  | "Shell" =>
    [("command", .leaf), ("variables", .many .namedValue), ("dryRun", .one .dryRun),
      ("references", .many .fileReference), ("subnetId", .leaf), ("shellIdentity", .one .value)]
  | "Helm" =>
    ("variables", .many .namedValue) ::
      (leafFields ["releaseName", "releaseNamespace", "chartDir", "valuesFile"] ++
        valueFields ["aksCluster", "identityFrom"])
  | "DelegateChildZone" => valueFields ["parentZone", "childZone"]
  | "SetCertificateIssuer" =>
    valueFields ["vaultBaseUrl", "issuer", "secretKeyVault", "secretName", "applicationId"]
  | "CreateCertificate" =>
    valueFields ["vaultBaseUrl", "certificateName", "contentType", "san", "issuer", "secretKeyVault",
      "secretName", "applicationId", "commonName"]
  | "ResourceProviderRegistration" => valueFields ["resourceProviderNamespaces"]
  | "ImageMirror" =>
    ("copyFrom", .leaf) ::
      valueFields ["targetACR", "sourceRegistry", "repository", "digest", "imageFilePath",
        "imageTarFileName", "imageMetadataFileName", "pullSecretKeyVault", "pullSecretName",
        "shellIdentity", "adoProject", "artifactName", "buildId"]
  | "Logs" => valueFields ["subscriptionId", "namespace", "certsan", "certdescription", "configVersion"]
  | _ => []

def isActionKey (k : Tree) : Bool := k.content?.bind Datum.text? = some "action"

/-- The texts that tell the kind of a step. There has to be one. -/
def actionsOf (l : List (Tree × Tree)) : List String :=
  l.filterMap fun (k, v) => if isActionKey k then v.text? else none

namespace TreeForm

/-- The fields whose values are read directly. -/
def directFields : TreeForm → FieldTable TreeForm
  | .topology => [("services", .many .service), ("entrypoints", .many .entrypoint)]
  | .service =>
    [("serviceGroup", .leaf), ("purpose", .leaf), ("pipelinePath", .leaf),
      ("children", .many .service), ("metadata", .leaf)]
  | .entrypoint => [("identifier", .leaf), ("metadata", .leaf)]
  | .pipeline =>
    [("$schema", .leaf), ("serviceGroup", .leaf), ("rolloutName", .leaf),
      ("resourceGroups", .many .resourceGroup), ("buildStep", .one .buildStep)]
  | .buildStep => [("command", .leaf), ("args", .leaf)]
  | .resourceGroup =>
    [("subscriptionProvisioning", .one .subscriptionProvisioning), ("steps", .many .step),
      ("validationSteps", .many .validationStep)]
  | .subscriptionProvisioning =>
    [("displayName", .one .value), ("airsRegisteredUserPrincipalId", .one .value),
      ("certificateDomains", .one .value)]
  | .value => [("value", .leaf), ("configRef", .leaf), ("input", .one .input)]
  | .input => [("name", .leaf)]
  | .step => [("action", .leaf)]
  | .validationStep => [("action", .leaf)]

/-- The fields whose values are read as data. Those of a step depend on its kind. -/
def dataFields (l : List (Tree × Tree)) : TreeForm → FieldTable DataForm
  | .resourceGroup =>
    [("name", .leaf), ("resourceGroup", .leaf), ("subscription", .leaf),
      ("executionConstraints", .many .executionConstraint)]
  | .input => leafFields ["resourceGroup", "step"]
  | .step => StepHeader.fields ++ (actionsOf l).flatMap StepBody.fields
  | .validationStep => StepHeader.fields ++ StepBody.fields "Shell"
  | _ => []

end TreeForm

/-! ## Structures of both kinds -/

inductive Form where
  | tree (f : TreeForm)
  | data (f : DataForm)

/-- The field that a key of data names: a string names the field that is called so, and a number the one at
its position, if there is one. No other key is accepted. -/
def Yaml.Datum.fieldName? (positions : List String) : Datum → Option (Option String)
  | .string s => some (some s)
  | .integer n => if 0 ≤ n then some positions[n.toNat]? else none
  | _ => none

namespace Form

def directFields : Form → FieldTable TreeForm
  | .tree f => f.directFields
  | .data _ => []

def dataFields (l : List (Tree × Tree)) : Form → FieldTable DataForm
  | .tree f => f.dataFields l
  | .data f => f.fields

/-- The fields that a structure knows that is written with some entries. -/
def fields (f : Form) (l : List (Tree × Tree)) : FieldTable Form :=
  f.directFields.map (fun e => (e.1, e.2.map .tree)) ++
    (f.dataFields l).map (fun e => (e.1, e.2.map .data))

/-- The field that a key names, if it is a key that is accepted at all. -/
def fieldName? : Form → Tree → Option (Option String)
  | .tree .step, k => k.content?.bind (Datum.fieldName? [])
  | .tree .validationStep, k => k.content?.bind (Datum.fieldName? [])
  | .tree _, k => k.text?.map some
  | .data f, k => k.content?.bind (Datum.fieldName? f.positions)

/-- A key is passed over that is accepted and does not name a field that the structure knows. -/
def PassesOver (f : Form) (l : List (Tree × Tree)) (k : Tree) : Prop :=
  ∃ name, f.fieldName? k = some name ∧ ∀ key ∈ name, (f.fields l).lookup key = none

/-- The field that is written at a place, if the structure may be written as a list. -/
def place? : Form → Nat → Option String
  | .tree _, _ => none
  | .data f, i => f.positions[i]?

end Form

/-! ## Rearranging -/

/-- Trees that differ in the order of the keys of structures and in keys that are passed over, at any depth
below a number of levels that may still be nested. -/
inductive Rearranged : Nat → Shape Form → Tree → Tree → Prop
  | keys {n : Nat} {f : Form} {tag : Option String} {l l' : List (Tree × Tree)} (h : l.Perm l') :
    Rearranged (n + 1) (.one f) (.mapping tag l) (.mapping tag l')
  | extra {n : Nat} {f : Form} {tag : Option String} {l : List (Tree × Tree)} {k v : Tree}
    (hkey : f.PassesOver l k) (hvalue : v.content?.isSome) (hdepth : v.depth ≤ n) :
    Rearranged (n + 1) (.one f) (.mapping tag l) (.mapping tag ((k, v) :: l))
  | field {n : Nat} {f : Form} {tag : Option String} {l : List (Tree × Tree)} {k v v' : Tree}
    {key : String} {s : Shape Form} (hkey : f.fieldName? k = some (some key))
    (hfield : (f.fields ((k, v) :: l)).lookup key = some s) (h : Rearranged n s v v') :
    Rearranged (n + 1) (.one f) (.mapping tag ((k, v) :: l)) (.mapping tag ((k, v') :: l))
  | place {n : Nat} {f : Form} {tag : Option String} {l₁ l₂ : List Tree} {v v' : Tree}
    {key : String} {s : Shape Form} (hkey : f.place? l₁.length = some key)
    (hfield : (f.fields []).lookup key = some s) (h : Rearranged n s v v') :
    Rearranged (n + 1) (.one f) (.sequence tag (l₁ ++ v :: l₂)) (.sequence tag (l₁ ++ v' :: l₂))
  | item {n : Nat} {f : Form} {tag : Option String} {l₁ l₂ : List Tree} {t t' : Tree}
    (h : Rearranged n (.one f) t t') :
    Rearranged (n + 1) (.many f) (.sequence tag (l₁ ++ t :: l₂)) (.sequence tag (l₁ ++ t' :: l₂))
  | symm {n : Nat} {s : Shape Form} {t t' : Tree} (h : Rearranged n s t t') : Rearranged n s t' t
  | trans {n : Nat} {s : Shape Form} {t t' t'' : Tree} (h : Rearranged n s t t')
    (h' : Rearranged n s t' t'') : Rearranged n s t t''

end RolloutPlan
