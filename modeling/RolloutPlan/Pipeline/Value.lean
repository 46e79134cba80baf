import RolloutPlan.Pipeline.Reference
import RolloutPlan.Yaml.Datum

/-!
# Configurable values

A value is written out, or it refers to the configuration, or it is the output of another step. Only
the last of these says something about the order of steps.

* `Input`, `Value`, `Variable`.
* `Value.describe`: the text of a value.
* `inputsOf`: the steps that values read from, each once and in increasing order.
-/

namespace RolloutPlan

open Yaml

/-- A named output of another step. -/
structure Input where
  name : String
  step : StepReference
deriving DecidableEq

/-- A configurable value. -/
structure Value where
  literal : Option Datum := none
  configRef : Option String := none
  input : Option Input := none
deriving Inhabited

/-- A value with the name under which a step sees it. -/
structure Variable where
  name : String
  value : Value

namespace Value

/-- The text of a value. An input counts before a reference to the configuration, and that before
what is written out. -/
def describe (v : Value) : String :=
  match v.input, v.configRef, v.literal with
  | some i, _, _ => i.step.text ++ "." ++ i.name
  | none, some r, _ => "\x7b\x7b ." ++ r ++ " \x7d\x7d"
  | none, none, some (.string s) => s
  | none, none, some d => d.describe
  | none, none, none => ""

end Value

def inputsOf (values : List Value) : List StepReference :=
  Sorted.ofList (values.filterMap fun v => v.input.map (·.step))

end RolloutPlan
