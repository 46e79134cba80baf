import RolloutPlan.Pipeline.Basic
import RolloutPlan.Text.Quoted

/-!
# Sound pipelines

In a sound pipeline the resource groups have names and subscriptions, names are not used twice, and
every step that another one depends on is declared. The first problem is reported. Whether steps
depend on each other in a cycle is not asked here.

* `PipelineError`: what can be wrong, and where.
* `Pipeline.declare`: the names of the groups and their steps.
* `Pipeline.validate`: the first problem, names before dependencies.
-/

namespace RolloutPlan

/-- Why a reference leads nowhere. -/
inductive DanglingReference where
  | noGroup
  | noStep
deriving DecidableEq

/-- What can be wrong with a pipeline. Places are counted from zero. -/
inductive PipelineError where
  | missingName (index : Nat)
  | missingSubscription (index : Nat) (name : String)
  | duplicateGroup (index : Nat) (name : String)
  | duplicateStep (index : Nat) (group : String) (stepIndex : Nat) (step : String)
  | unknownDependency (index : Nat) (group : String) (stepIndex : Nat) (step : String)
      (dependency : StepReference) (reason : DanglingReference)
deriving DecidableEq

def DanglingReference.message (r : StepReference) : DanglingReference → String
  | .noGroup => "no such resource group " ++ r.resourceGroup
  | .noStep => "resource group " ++ r.resourceGroup ++ " has no step " ++ r.step

def groupPlace (index : Nat) (name : String) : String :=
  "pipeline.resourceGroups[" ++ toString index ++ ":" ++ name ++ "]"

def stepPlace (index : Nat) (group : String) (stepIndex : Nat) (step : String) : String :=
  groupPlace index group ++ ".steps[" ++ toString stepIndex ++ ":" ++ step ++ "]"

def PipelineError.message : PipelineError → String
  | .missingName index =>
    "pipeline.resourceGroups[" ++ toString index ++ "]: resource group name is required"
  | .missingSubscription index name => groupPlace index name ++ ": subscription is required"
  | .duplicateGroup index name =>
    groupPlace index name ++ ": resource group name " ++ Text.quote name ++ " duplicated"
  | .duplicateStep index group stepIndex step =>
    stepPlace index group stepIndex step ++ ": step name " ++ Text.quote step ++ " duplicated"
  | .unknownDependency index group stepIndex step dependency reason =>
    stepPlace index group stepIndex step ++ ": dependency " ++ dependency.text ++ " invalid: " ++
      reason.message dependency

namespace Pipeline

/-- The names of resource groups with the names of their steps. -/
abbrev Declarations := List (String × List String)

/-- Adds the steps of one resource group to those that were met in it. -/
def declareSteps (index : Nat) (group : String) :
    Nat → List String → List Step → Except PipelineError (List String)
  | _, seen, [] => .ok seen
  | i, seen, s :: l =>
    if seen.contains s.name then .error (.duplicateStep index group i s.name)
    else declareSteps index group (i + 1) (s.name :: seen) l

/-- Adds resource groups, of which the first one has a given place. -/
def declareGroups : Nat → Declarations → List ResourceGroup → Except PipelineError Declarations
  | _, known, [] => .ok known
  | i, known, g :: l =>
    if g.name = "" then .error (.missingName i)
    else if g.target.subscription = "" then .error (.missingSubscription i g.name)
    else if known.any (·.1 = g.name) then .error (.duplicateGroup i g.name)
    else do
      let steps ← declareSteps i g.name 0 [] g.steps
      declareGroups (i + 1) ((g.name, steps) :: known) l

def declare (p : Pipeline) : Except PipelineError Declarations :=
  declareGroups 0 [] p.resourceGroups

def dangling? (known : Declarations) (r : StepReference) : Option DanglingReference :=
  match known.lookup r.resourceGroup with
  | none => some .noGroup
  | some steps => if steps.contains r.step then none else some .noStep

/-- The first dependency of a step that leads nowhere is an error. -/
def checkStep (known : Declarations) (index : Nat) (group : String) (stepIndex : Nat) (s : Step) :
    Except PipelineError Unit :=
  s.dependencySet.forM fun r =>
    match dangling? known r with
    | some reason => .error (.unknownDependency index group stepIndex s.name r reason)
    | none => .ok ()

def validate (p : Pipeline) : Except PipelineError Unit := do
  let known ← p.declare
  p.resourceGroups.zipIdx.forM fun (g, i) =>
    g.steps.zipIdx.forM fun (s, j) => checkStep known i g.name j s

end Pipeline

end RolloutPlan
