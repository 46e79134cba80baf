import RolloutPlan.Command.Graph
import RolloutPlan.Proofs.Check

/-!
# What speaks against a drawing

A graph can be drawn when no service group in it is too short to be shown. A command that draws it goes
on only once the drawing has been written.

* `shortObjections`: a service group is too short.
* `Node.drawingObjections`, `Graph.drawingObjections`: the service groups of a node and its children, and
  of a graph, in the order in which they are drawn.
* `Graph.checks_toDot`: the text of a drawing.
* `performOn_drawThen_none`, `performOn_drawThen_written`, `performOn_drawThen_short`,
  `performOn_drawThen_unwritten`: the four ways in which a command goes on, or ends, that draws a graph.
-/

namespace RolloutPlan

set_option autoImplicit false

/-- What speaks against showing a service group. -/
def shortObjections (serviceGroup : String) : List GraphError :=
  objectIf (dropParts? organisationParts serviceGroup.toList = none) (.shortServiceGroup serviceGroup)

theorem eq_shortServiceGroup_of_mem {serviceGroup : String} {e : GraphError}
    (h : e ∈ shortObjections serviceGroup) : e = .shortServiceGroup serviceGroup :=
  (mem_objectIf.1 h).2

theorem checks_shortenServiceGroup (serviceGroup : String) :
    Checks (shortenServiceGroup serviceGroup) (shortObjections serviceGroup) fun _ => True := by
  unfold shortenServiceGroup shortObjections objectIf
  cases dropParts? organisationParts serviceGroup.toList with
  | none => exact .error _ _
  | some _ => exact .ok trivial

namespace Identifier

theorem checks_drawingName (i : Identifier) :
    Checks i.drawingName (shortObjections i.serviceGroup) fun _ => True :=
  (checks_shortenServiceGroup i.serviceGroup).bind_ok fun _ _ => .ok trivial

theorem checks_drawingLabel (i : Identifier) :
    Checks i.drawingLabel (shortObjections i.serviceGroup) fun _ => True :=
  (checks_shortenServiceGroup i.serviceGroup).bind_ok fun _ _ => .ok trivial

/-- An arrow needs the name of the step at its end. -/
theorem checks_arrow (i : Identifier) (line : String → DrawingLine) :
    Checks (do return line (← i.drawingName)) (shortObjections i.serviceGroup) fun _ => True :=
  i.checks_drawingName.bind_ok fun _ _ => .ok trivial

end Identifier

/-- What speaks against drawing a node. -/
def Node.drawingObjections (n : Node) : List GraphError :=
  shortObjections n.identifier.serviceGroup ++ (shortObjections n.identifier.serviceGroup ++
    n.children.flatMap fun c => shortObjections c.serviceGroup)

theorem Node.checks_drawing (n : Node) : Checks n.drawing n.drawingObjections fun _ => True := by
  refine n.identifier.checks_drawingName.bind fun name _ =>
    n.identifier.checks_drawingLabel.bind fun _ _ => ?_
  exact (Checks.mapM fun c _ => c.checks_arrow (.arrow name)).bind_ok fun _ _ => .ok trivial

namespace Graph

/-- What speaks against drawing a graph: its nodes come before its validation steps. -/
def drawingObjections (g : Graph) : List GraphError :=
  g.nodes.flatMap Node.drawingObjections ++
    g.validationSteps.keys.flatMap fun i => shortObjections i.serviceGroup

theorem checks_drawing (g : Graph) : Checks g.drawing g.drawingObjections fun _ => True := by
  refine (Checks.mapM fun n _ => n.checks_drawing).bind fun _ _ => ?_
  exact (Checks.mapM fun i _ => i.checks_arrow (.arrow validationName)).bind_ok fun _ _ =>
    .ok trivial

/-- A graph is drawn unless a service group is too short. -/
theorem checks_toDot (g : Graph) : Checks g.toDot g.drawingObjections fun _ => True :=
  g.checks_drawing.bind_ok fun _ _ => .ok trivial

theorem eq_shortServiceGroup_of_toDot {g : Graph} {e : GraphError} (h : g.toDot = .error e) :
    ∃ serviceGroup, e = .shortServiceGroup serviceGroup := by
  have he := g.checks_toDot.mem_of_error h
  unfold drawingObjections Node.drawingObjections at he
  simp only [List.mem_append, List.mem_flatMap] at he
  rcases he with ⟨n, -, he | he | ⟨c, -, he⟩⟩ | ⟨i, -, he⟩
  all_goals exact ⟨_, eq_shortServiceGroup_of_mem he⟩

end Graph

/-! ## Commands that draw -/

section DrawThen
variable {q : GraphRequest} {g : Graph} {next : Run} {files : Files} {host : Host}
  {target text : String}

theorem performOn_drawThen_none (hq : q.drawing = none) :
    (drawThen q g next).performOn host files = next.performOn host files := by
  unfold drawThen
  rw [hq]

theorem performOn_drawThen_written (hq : q.drawing = some target) (htext : g.toDot = .ok text)
    {files' : Files} (hwrite : files.write host target text = .ok files') :
    (drawThen q g next).performOn host files =
      (next.performOn host files').behind (.written target text) := by
  unfold drawThen
  simp only [hq, htext, Run.performOn, hwrite]

theorem performOn_drawThen_short (hq : q.drawing = some target) {e : GraphError}
    (htext : g.toDot = .error e) :
    (drawThen q g next).performOn host files = ⟨.error ⟨[], .graph e⟩, files, []⟩ := by
  unfold drawThen
  simp only [hq, htext]
  rfl

theorem performOn_drawThen_unwritten (hq : q.drawing = some target) (htext : g.toDot = .ok text)
    {e : IoError} (hwrite : files.write host target text = .error e) :
    (drawThen q g next).performOn host files =
      ⟨.error ⟨[.writingDrawing target], .unreadable e⟩, files, []⟩ := by
  unfold drawThen
  simp only [hq, htext, Run.performOn, hwrite]
  rfl

/-- A command that draws a graph goes on as it would without, unless the graph cannot be drawn or the
drawing cannot be written. -/
theorem error_cases_of_drawThen {f : Failure}
    (h : ((drawThen q g next).performOn host files).result = .error f) :
    (∃ files', (next.performOn host files').result = .error f) ∨
      ∃ path, q.drawing = some path ∧ ((∃ e, f = ⟨[.writingDrawing path], .unreadable e⟩) ∨
        ∃ group, f = ⟨[], .graph (.shortServiceGroup group)⟩) := by
  cases hq : q.drawing with
  | none =>
    rw [performOn_drawThen_none hq] at h
    exact .inl ⟨files, h⟩
  | some target =>
    cases htext : g.toDot with
    | error e =>
      rw [performOn_drawThen_short hq htext] at h
      obtain ⟨group, rfl⟩ := Graph.eq_shortServiceGroup_of_toDot htext
      exact .inr ⟨target, rfl, .inr ⟨group, (Except.error.inj h).symm⟩⟩
    | ok text =>
      cases hwrite : files.write host target text with
      | error e =>
        rw [performOn_drawThen_unwritten hq htext hwrite] at h
        exact .inr ⟨target, rfl, .inl ⟨e, (Except.error.inj h).symm⟩⟩
      | ok files' =>
        rw [performOn_drawThen_written hq htext hwrite] at h
        exact .inl ⟨files', h⟩

end DrawThen

end RolloutPlan
