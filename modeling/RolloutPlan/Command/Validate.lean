import RolloutPlan.Command.Run
import RolloutPlan.Command.Style
import RolloutPlan.Rollout

/-!
# The command that validates

A topology and every pipeline that it points at are loaded and checked.

* `Rollout.loadValid`: loading, and checking the topology.
* `validateReport`: what is said about a rollout without problems.
* `validateCommand`: the command.
-/

namespace RolloutPlan

def Rollout.loadValid (read : Reading) (path : String) : Except Failure Rollout := do
  let r ← Rollout.load read path
  match r.topology.validate with
  | .ok () => return r
  | .error e => .error ⟨[.checkingTopology path], .topology e⟩

def linesText (lines : List String) : String := String.join (lines.map (· ++ "\n"))

def pipelineLine (coloured : Bool) (serviceGroup : String) (p : Pipeline) : String :=
  let steps := p.declaredSteps
  let undeclared := steps.filter fun (_, s) => !s.body.isWellFormed
  "  " ++ Style.goodItem.paint coloured "✓" ++ " " ++ serviceGroup ++ " (" ++
    toString p.resourceGroups.length ++ " resource groups, " ++ toString steps.length ++
    " steps, " ++ toString undeclared.length ++ " with undeclared inputs)"

/-- The line about a service that has no pipeline. -/
def noPipelineLine (coloured : Bool) (serviceGroup : String) : String :=
  "  " ++ Style.notice.paint coloured "!" ++ " " ++ serviceGroup ++ " has no pipeline"

def validateReport (coloured : Bool) (path : String) (r : Rollout) : String :=
  linesText
    ((Style.good.paint coloured "✓" ++ " Topology " ++ path ++ " is valid (" ++
        toString r.topology.services.length ++ " root services, " ++
        toString r.topology.entrypoints.length ++ " entrypoints)") ::
      (r.pipelines.map (fun (serviceGroup, p) => pipelineLine coloured serviceGroup p) ++
        r.servicesWithoutPipeline.map (noPipelineLine coloured)))

def validateCommand (read : Reading) (coloured : Bool) (path : String) : Run :=
  match Rollout.loadValid read path with
  | .error f => .failed f
  | .ok r => .print (validateReport coloured path r) .succeeded

end RolloutPlan
