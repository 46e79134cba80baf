import RolloutPlan.Pipeline.Step

/-!
# Pipelines

A pipeline rolls out one service. Its steps stand in resource groups, each of which says where it
deploys to.

* `ExecutionConstraint`, `ResourceGroupTarget`: where and how often a resource group is deployed.
* `SubscriptionProvisioning`: the request for a subscription.
* `ResourceGroup`, `Pipeline`.
-/

namespace RolloutPlan

/-- Where and how often a resource group is deployed. -/
structure ExecutionConstraint where
  singleton : Bool := false
  clouds : List String := []
  environments : List String := []
  regions : List String := []
deriving DecidableEq

/-- Where a resource group deploys to. Services may share a resource group as long as they agree on
this. -/
structure ResourceGroupTarget where
  name : String
  resourceGroup : String
  subscription : String
  executionConstraints : List ExecutionConstraint := []
deriving DecidableEq

/-- The request for a subscription. -/
structure SubscriptionProvisioning where
  displayName : Value
  airsRegisteredUserPrincipalId : Option Value := none
  certificateDomains : Option Value := none

/-- Steps that deploy to one place. -/
structure ResourceGroup where
  target : ResourceGroupTarget
  subscriptionProvisioning : Option SubscriptionProvisioning := none
  steps : List Step := []
  validationSteps : List ValidationStep := []

def ResourceGroup.name (g : ResourceGroup) : String := g.target.name

/-- What is built before any step runs. -/
structure BuildStep where
  command : String
  args : List String := []
deriving DecidableEq

/-- The steps that roll out a service. -/
structure Pipeline where
  schema : Option String := none
  serviceGroup : String
  rolloutName : String := ""
  resourceGroups : List ResourceGroup := []
  buildStep : Option BuildStep := none

/-- Every step with the resource group that it stands in. -/
def Pipeline.declaredSteps (p : Pipeline) : List (ResourceGroup × Step) :=
  p.resourceGroups.flatMap fun g => g.steps.map fun s => (g, s)

end RolloutPlan
