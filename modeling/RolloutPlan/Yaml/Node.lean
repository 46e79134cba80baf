import RolloutPlan.Yaml.Token

/-!
# Nodes of a document

A document as it is written, with its aliases still in place. Every anchor has a number; an alias
carries the number of the anchor whose name it repeats.

* `Scalar`, `Node`: the parts of a document.
* `Document`: the root node with the nodes that anchors stand at.
-/

namespace RolloutPlan.Yaml

/-- A scalar with its tag, the handle of which has been replaced. -/
structure Scalar where
  text : String
  style : Style
  tag : Option String
deriving DecidableEq, Repr

def Scalar.blank (tag : Option String) : Scalar := ⟨"", .plain, tag⟩

/-- A part of a document. -/
inductive Node where
  | alias (anchor : Nat)
  | scalar (s : Scalar)
  | sequence (tag : Option String) (items : List Node)
  | mapping (tag : Option String) (entries : List (Node × Node))
deriving Inhabited

/-- A document. -/
structure Document where
  root : Node
  /-- For each anchor number the node that has it. -/
  anchored : List (Nat × Node)
  /-- How much is written: one for each scalar and alias, two for each collection. -/
  size : Nat

end RolloutPlan.Yaml
