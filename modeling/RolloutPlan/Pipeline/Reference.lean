import RolloutPlan.Sorted

/-!
# References to steps

* `StepReference`: a step of the same service.
* `ExternalStepReference`: a step of any service.

References are ordered by resource group and then by step.
-/

namespace RolloutPlan

/-- A step of the same service. -/
structure StepReference where
  resourceGroup : String
  step : String
deriving DecidableEq

namespace StepReference

def key (r : StepReference) : List String := [r.resourceGroup, r.step]

instance : LT StepReference := ⟨fun a b => a.key < b.key⟩

instance : DecidableLT StepReference := fun a b => inferInstanceAs (Decidable (a.key < b.key))

instance : StrictlyOrdered StepReference := .of_key key (fun _ _ => Iff.rfl) fun r s h => by
  cases r
  cases s
  simpa [key] using h

def text (r : StepReference) : String := r.resourceGroup ++ "/" ++ r.step

end StepReference

/-- A step of some service. -/
structure ExternalStepReference where
  serviceGroup : String
  resourceGroup : String
  step : String
deriving DecidableEq

end RolloutPlan
