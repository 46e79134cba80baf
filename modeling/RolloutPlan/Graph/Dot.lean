import RolloutPlan.Graph.Error

/-!
# Drawing a graph

The text of a drawing is written for a program that lays out graphs. Every node is a box with its
label, followed by its arrows to its children; the validation steps hang off one more node. Service
groups are shown without the four parts at their beginning that name the organisation.

* `dropParts?`, `shortenServiceGroup`: the rest of a service group.
* `DrawingLine`: a box or an arrow, with its text.
* `Graph.drawing`, `Graph.toDot`: the lines of a drawing and its whole text.
-/

namespace RolloutPlan

def dropParts? : Nat → List Char → Option (List Char)
  | 0, cs => some cs
  | _ + 1, [] => none
  | n + 1, c :: cs => if c = '.' then dropParts? n cs else dropParts? (n + 1) cs

def organisationParts : Nat := 4

def shortenServiceGroup (serviceGroup : String) : Except GraphError String :=
  match dropParts? organisationParts serviceGroup.toList with
  | some cs => .ok (String.ofList cs)
  | none => .error (.shortServiceGroup serviceGroup)

namespace Identifier

def drawingName (i : Identifier) : Except GraphError String := do
  return (← shortenServiceGroup i.serviceGroup) ++ "_" ++ i.resourceGroup ++ "_" ++ i.step

def drawingLabel (i : Identifier) : Except GraphError String := do
  return (← shortenServiceGroup i.serviceGroup) ++ "/" ++ i.resourceGroup ++ "/" ++ i.step

end Identifier

/-- A line of a drawing. -/
inductive DrawingLine where
  | box (name label : String)
  | arrow (before after : String)
deriving DecidableEq

/-- The text of a line. Names and labels are written as they are. -/
def DrawingLine.text : DrawingLine → String
  | .box name label => " \"" ++ name ++ "\" [label=\"" ++ label ++ "\"];\n"
  | .arrow before after => " \"" ++ before ++ "\" -> \"" ++ after ++ "\";\n"

def drawingHeader : String :=
  "digraph regexp \x7b \n fontname=\"Helvetica,Arial,sans-serif\"\n" ++
    " node [fontname=\"Helvetica,Arial,sans-serif\"]\n" ++
    " edge [fontname=\"Helvetica,Arial,sans-serif\"]\n"

def drawingFooter : String := "\x7d"

def validationName : String := "serviceValidation"

def Node.drawing (n : Node) : Except GraphError (List DrawingLine) := do
  let name ← n.identifier.drawingName
  let label ← n.identifier.drawingLabel
  let arrows ← n.children.mapM fun c => do return DrawingLine.arrow name (← c.drawingName)
  return .box name label :: arrows

namespace Graph

def drawing (g : Graph) : Except GraphError (List DrawingLine) := do
  let nodes ← g.nodes.mapM Node.drawing
  let validation ← g.validationSteps.keys.mapM fun i => do
    return DrawingLine.arrow validationName (← i.drawingName)
  return nodes.flatten ++ validation

def toDot (g : Graph) : Except GraphError String := do
  return drawingHeader ++ String.join ((← g.drawing).map DrawingLine.text) ++ drawingFooter

end Graph

end RolloutPlan
