import RolloutPlan.Pipeline.Basic
import RolloutPlan.Text.Quoted

/-!
# Differences between targets

Services may share a resource group when they agree on where it deploys to. The constraints are
compared one by one in their order, but the clouds, environments and regions of a constraint are
sets.

* `ResourceGroupTarget.agrees`: whether two targets say the same.
* `TargetDifference`: a part in which two targets differ, with what each of them says.
* `ResourceGroupTarget.differences`: all of them, part by part.
* `ResourceGroupTarget.comparison`: the differences line by line.
-/

namespace RolloutPlan

namespace ExecutionConstraint

def agrees (a b : ExecutionConstraint) : Bool :=
  a.singleton = b.singleton &&
    Sorted.ofList a.clouds = Sorted.ofList b.clouds &&
    Sorted.ofList a.environments = Sorted.ofList b.environments &&
    Sorted.ofList a.regions = Sorted.ofList b.regions

end ExecutionConstraint

/-- What two targets can differ in. Constraints are counted from zero. -/
inductive TargetPart where
  | name
  | resourceGroup
  | subscription
  | constraintCount
  | singleton (index : Nat)
  | clouds (index : Nat)
  | environments (index : Nat)
  | regions (index : Nat)
deriving DecidableEq

namespace TargetPart

def constraintLabel (index : Nat) : String := "executionConstraints[" ++ toString index ++ "]"

def label : TargetPart → String
  | .name => "name"
  | .resourceGroup => "resourceGroup"
  | .subscription => "subscription"
  | .constraintCount => "executionConstraints"
  | .singleton index => constraintLabel index ++ ".singleton"
  | .clouds index => constraintLabel index ++ ".clouds"
  | .environments index => constraintLabel index ++ ".environments"
  | .regions index => constraintLabel index ++ ".regions"

end TargetPart

/-- A part in which two targets differ, with the text of what each of them says. -/
structure TargetDifference where
  part : TargetPart
  recorded : String
  incoming : String
deriving DecidableEq

namespace TargetDifference

/-- What two targets say about a part, if it is not the same. -/
def between {α : Type} [DecidableEq α] (part : TargetPart) (text : α → String)
    (recorded incoming : α) : List TargetDifference :=
  if recorded = incoming then [] else [⟨part, text recorded, text incoming⟩]

def nameText (s : String) : String := Text.quote s ++ ","

def countText (n : Nat) : String := toString n ++ " entries"

def flagText (b : Bool) : String := toString b

def setText (s : List String) : String := "[" ++ ", ".intercalate s ++ "]"

def ofConstraints (index : Nat) (a b : ExecutionConstraint) : List TargetDifference :=
  between (.singleton index) flagText a.singleton b.singleton ++
    between (.clouds index) setText (Sorted.ofList a.clouds) (Sorted.ofList b.clouds) ++
    between (.environments index) setText (Sorted.ofList a.environments)
      (Sorted.ofList b.environments) ++
    between (.regions index) setText (Sorted.ofList a.regions) (Sorted.ofList b.regions)

/-- The differences between constraints at the places that both lists have. -/
def ofConstraintLists : Nat → List ExecutionConstraint → List ExecutionConstraint →
    List TargetDifference
  | index, a :: l, b :: m => ofConstraints index a b ++ ofConstraintLists (index + 1) l m
  | _, _, _ => []

/-- The lines of a difference, the recorded side first. -/
def lines (d : TargetDifference) : List String :=
  ["-   " ++ d.part.label ++ ": " ++ d.recorded, "+   " ++ d.part.label ++ ": " ++ d.incoming]

end TargetDifference

namespace ResourceGroupTarget

def agrees (a b : ResourceGroupTarget) : Bool :=
  a.name = b.name && a.resourceGroup = b.resourceGroup && a.subscription = b.subscription &&
    a.executionConstraints.length = b.executionConstraints.length &&
    (a.executionConstraints.zip b.executionConstraints).all fun (x, y) => x.agrees y

open TargetDifference in
def differences (recorded incoming : ResourceGroupTarget) : List TargetDifference :=
  between .name nameText recorded.name incoming.name ++
    between .resourceGroup nameText recorded.resourceGroup incoming.resourceGroup ++
    between .subscription nameText recorded.subscription incoming.subscription ++
    between .constraintCount countText recorded.executionConstraints.length
      incoming.executionConstraints.length ++
    ofConstraintLists 0 recorded.executionConstraints incoming.executionConstraints

def comparison (recorded incoming : ResourceGroupTarget) : String :=
  "\n".intercalate ("  ResourceGroupMeta\x7b" ::
    ((differences recorded incoming).flatMap TargetDifference.lines ++ ["  \x7d"]))

end ResourceGroupTarget

end RolloutPlan
