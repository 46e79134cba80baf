import Mathlib.Data.Prod.Basic
import RolloutPlan.Proofs.ShownNames
import RolloutPlan.Proofs.ValidationSteps

/-!
# What is drawn of a graph

A drawing has a line for every step and every link of a graph. Links are written from their beginnings
only; as both ends of a link know of it, each is still written once.

* `Node.lines`, `Graph.lines`: the lines of a drawing. `Graph.links`: the links that they show.
* `Graph.drawing_eq_ok_iff`, `Graph.toDot_eq_ok_iff`: when a graph can be drawn, and its drawing.
* `labelStatement`, `arrowStatement`: what is written for a step and for an arrow.
* `Graph.FullyDrawn`: every step and every link of a graph is written once.
* `GraphSource.toDot_of_assembles`: a graph that is built is fully drawn if the service groups with steps
  can be shown, and only then.
* `DrawnRollout`: a service with two steps in two resource groups, one after the other.
-/

namespace RolloutPlan

set_option autoImplicit false

/-! ## Lines -/

/-- The lines of a node: its box, and an arrow to each of its children. -/
def Node.lines (n : Node) : List DrawingLine :=
  .box n.identifier.shownName n.identifier.shownLabel ::
    n.children.map fun c => .arrow n.identifier.shownName c.shownName

namespace Graph

/-- The lines for the validation steps, which hang off one more node. -/
def validationLines (g : Graph) : List DrawingLine :=
  g.validationSteps.keys.map fun i => .arrow validationName i.shownName

def lines (g : Graph) : List DrawingLine := g.nodes.flatMap Node.lines ++ g.validationLines

/-- The identifiers that lines are written for. -/
def mentioned (g : Graph) : List Identifier :=
  (g.nodes.flatMap fun n => n.identifier :: n.children) ++ g.validationSteps.keys

end Graph

theorem mapM_eq_ok_iff {α β ε : Type} {f : α → Except ε β} {p : α → Prop} {g : α → β}
    (h : ∀ a b, f a = .ok b ↔ p a ∧ b = g a) {l : List α} {m : List β} :
    l.mapM f = .ok m ↔ (∀ a ∈ l, p a) ∧ m = l.map g := by
  induction l generalizing m with
  | nil => simp [pure, Except.pure, eq_comm]
  | cons a l ih =>
    simp only [List.mapM_cons, bind_eq_ok, h, ih, List.forall_mem_cons, List.map_cons]
    constructor
    · rintro ⟨b, ⟨ha, rfl⟩, r, ⟨hl, rfl⟩, hm⟩
      exact ⟨⟨ha, hl⟩, (Except.ok.inj hm).symm⟩
    · rintro ⟨⟨ha, hl⟩, rfl⟩
      exact ⟨_, ⟨ha, rfl⟩, _, ⟨hl, rfl⟩, rfl⟩

theorem Identifier.arrow_eq_ok_iff (name : String) (i : Identifier) (line : DrawingLine) :
    (do return DrawingLine.arrow name (← i.drawingName) : Except GraphError DrawingLine) = .ok line ↔
      Showable i.serviceGroup ∧ line = .arrow name i.shownName := by
  simp only [bind_eq_ok, drawingName_eq_ok_iff]
  constructor
  · rintro ⟨_, ⟨hi, rfl⟩, h⟩
    exact ⟨hi, (Except.ok.inj h).symm⟩
  · rintro ⟨hi, rfl⟩
    exact ⟨_, ⟨hi, rfl⟩, rfl⟩

theorem Node.drawing_eq_ok_iff (n : Node) (l : List DrawingLine) : n.drawing = .ok l ↔
    (∀ i ∈ n.identifier :: n.children, Showable i.serviceGroup) ∧ l = n.lines := by
  rw [drawing, List.forall_mem_cons]
  simp only [bind_eq_ok, Identifier.drawingName_eq_ok_iff, Identifier.drawingLabel_eq_ok_iff,
    mapM_eq_ok_iff (Identifier.arrow_eq_ok_iff _)]
  constructor
  · rintro ⟨_, ⟨hn, rfl⟩, _, ⟨-, rfl⟩, _, ⟨hchildren, rfl⟩, h⟩
    exact ⟨⟨hn, hchildren⟩, (Except.ok.inj h).symm⟩
  · rintro ⟨⟨hn, hchildren⟩, rfl⟩
    exact ⟨_, ⟨hn, rfl⟩, _, ⟨hn, rfl⟩, _, ⟨hchildren, rfl⟩, rfl⟩

namespace Graph

variable {g : Graph}

theorem drawing_eq_ok_iff {l : List DrawingLine} : g.drawing = .ok l ↔
    (∀ i ∈ g.mentioned, Showable i.serviceGroup) ∧ l = g.lines := by
  rw [drawing, mentioned, List.forall_mem_append, List.forall_mem_flatMap]
  simp only [bind_eq_ok, mapM_eq_ok_iff Node.drawing_eq_ok_iff,
    mapM_eq_ok_iff (Identifier.arrow_eq_ok_iff validationName)]
  constructor
  · rintro ⟨_, ⟨hnodes, rfl⟩, _, ⟨hsteps, rfl⟩, h⟩
    refine ⟨⟨hnodes, hsteps⟩, ?_⟩
    rw [← Except.ok.inj h, lines, List.flatMap_def]
    rfl
  · rintro ⟨⟨hnodes, hsteps⟩, rfl⟩
    refine ⟨_, ⟨hnodes, rfl⟩, _, ⟨hsteps, rfl⟩, ?_⟩
    rw [lines, List.flatMap_def]
    rfl

/-- The text of the lines of a graph, with its header and its footer. -/
def drawingText (g : Graph) : String :=
  drawingHeader ++ String.join (g.lines.map DrawingLine.text) ++ drawingFooter

theorem toDot_eq_ok_iff {text : String} : g.toDot = .ok text ↔
    (∀ i ∈ g.mentioned, Showable i.serviceGroup) ∧ text = g.drawingText := by
  rw [toDot]
  simp only [bind_eq_ok, drawing_eq_ok_iff]
  constructor
  · rintro ⟨_, ⟨hshown, rfl⟩, h⟩
    exact ⟨hshown, (Except.ok.inj h).symm⟩
  · rintro ⟨hshown, rfl⟩
    exact ⟨_, ⟨hshown, rfl⟩, rfl⟩

end Graph

/-! ## Links -/

namespace Graph

/-- The links of a graph, each with its beginning and its end, in the order in which they are drawn. -/
def links (g : Graph) : List (Identifier × Identifier) :=
  g.nodes.flatMap fun n => n.children.map (n.identifier, ·)

end Graph

/-! ## Statements -/

/-- What is written for a step. -/
def labelStatement (i : Identifier) : String :=
  " \"" ++ i.shownName ++ "\" [label=\"" ++ i.shownLabel ++ "\"];\n"

/-- What is written for an arrow between two names. -/
def arrowStatement (before after : String) : String :=
  " \"" ++ before ++ "\" -> \"" ++ after ++ "\";\n"

/-- The statements of a node: its label, and an arrow to each of its children. -/
def Node.statements (n : Node) : List String :=
  labelStatement n.identifier ::
    n.children.map fun c => arrowStatement n.identifier.shownName c.shownName

theorem Node.map_text_lines (n : Node) : n.lines.map DrawingLine.text = n.statements := by
  rw [lines, statements, List.map_cons, List.map_map]
  rfl

namespace Graph

variable {g : Graph}

/-- The statements of a graph, which come to the validation steps after all its nodes. -/
def statements (g : Graph) : List String :=
  g.nodes.flatMap Node.statements ++
    g.validationSteps.keys.map fun i => arrowStatement "serviceValidation" i.shownName

theorem map_text_lines : g.lines.map DrawingLine.text = g.statements := by
  have hvalidation : g.validationLines.map DrawingLine.text =
      g.validationSteps.keys.map fun i => arrowStatement "serviceValidation" i.shownName := by
    rw [validationLines, List.map_map]
    rfl
  rw [lines, statements, List.map_append, List.map_flatMap, hvalidation]
  simp only [Node.map_text_lines]

/-- Every step and every link of a graph is written once, and so is every validation step. -/
structure FullyDrawn (g : Graph) (text : String) : Prop where
  text_eq : text =
    "digraph regexp \x7b \n fontname=\"Helvetica,Arial,sans-serif\"\n" ++
      " node [fontname=\"Helvetica,Arial,sans-serif\"]\n" ++
      " edge [fontname=\"Helvetica,Arial,sans-serif\"]\n" ++ String.join g.statements ++ "\x7d"
  steps_nodup : (g.nodes.map Node.identifier).Nodup
  links_nodup : g.links.Nodup
  mem_links_iff_child : ∀ x ∈ g.nodes, ∀ i, (x.identifier, i) ∈ g.links ↔ i ∈ x.children
  mem_links_iff_parent : ∀ y ∈ g.nodes, ∀ i, (i, y.identifier) ∈ g.links ↔ i ∈ y.parents
  /-- The order of the last statements, which follow the keys of a map. -/
  validation_increasing : g.validationSteps.keys.Pairwise (· < ·)

end Graph

namespace Graph.Represents

variable {g : Graph} {services : List Service} {pipelines : Pipelines}
  (h : g.Represents services pipelines)
include h

theorem mem_links_iff_child {x : Node} (hx : x ∈ g.nodes) (i : Identifier) :
    (x.identifier, i) ∈ g.links ↔ i ∈ x.children := by
  simp only [links, List.mem_flatMap, List.mem_map, Prod.mk.injEq]
  constructor
  · rintro ⟨n, hn, c, hc, hnx, rfl⟩
    rwa [← List.inj_on_of_nodup_map h.distinct hn hx hnx]
  · intro hi
    exact ⟨x, hx, i, hi, rfl, rfl⟩

theorem mem_links_iff_parent {y : Node} (hy : y ∈ g.nodes) (i : Identifier) :
    (i, y.identifier) ∈ g.links ↔ i ∈ y.parents := by
  constructor
  · intro hi
    obtain ⟨n, hn, hc⟩ := List.mem_flatMap.1 hi
    obtain ⟨c, hc, heq⟩ := List.mem_map.1 hc
    obtain ⟨rfl, rfl⟩ := Prod.mk.inj heq
    exact (h.symmetric y hy n hn).1 hc
  · intro hi
    obtain ⟨n, hn, rfl⟩ := List.mem_map.1 (h.parents_mem y hy i hi)
    exact (h.mem_links_iff_child hn _).2 ((h.symmetric y hy n hn).2 hi)

theorem links_nodup : g.links.Nodup := by
  have hbeginning : ∀ n : Node, ∀ e ∈ n.children.map (n.identifier, ·), e.1 = n.identifier := by
    intro n e he
    obtain ⟨_, -, rfl⟩ := List.mem_map.1 he
    rfl
  refine (nodup_flatMap_of_key hbeginning h.distinct).2 fun n hn => ?_
  exact (h.children_nodup n hn).map (Prod.mk_right_injective n.identifier)

/-- The ends of links are steps themselves. -/
theorem mem_mentioned {i : Identifier} : i ∈ g.mentioned ↔
    i ∈ g.nodes.map Node.identifier ∨ i ∈ g.validationSteps.keys := by
  rw [mentioned, List.mem_append]
  refine or_congr_left ⟨fun hi => ?_, fun hi => ?_⟩
  · obtain ⟨n, hn, hi⟩ := List.mem_flatMap.1 hi
    rcases List.mem_cons.1 hi with rfl | hi
    · exact List.mem_map_of_mem hn
    · exact h.children_mem n hn i hi
  · obtain ⟨n, hn, rfl⟩ := List.mem_map.1 hi
    exact List.mem_flatMap.2 ⟨n, hn, List.mem_cons_self⟩

end Graph.Represents

/-! ## Graphs that are built -/

/-- The pipeline of a service group has a step or a validation step. -/
def Pipelines.HasSteps (pipelines : Pipelines) (group : String) : Prop :=
  ∃ p, pipelines.lookup group = some p ∧
    ∃ x ∈ p.resourceGroups, x.steps ≠ [] ∨ x.validationSteps ≠ []

theorem Pipelines.mem_identifiersOf {pipelines : Pipelines} {group : String} {i : Identifier} :
    i ∈ pipelines.identifiersOf group ↔ ∃ p, pipelines.lookup group = some p ∧
      ∃ x ∈ p.resourceGroups, ∃ s ∈ x.steps, i = ⟨group, x.name, s.name⟩ := by
  unfold identifiersOf
  cases pipelines.lookup group with
  | none => simp
  | some p =>
    simp only [Pipeline.references, Pipeline.declaredSteps, List.map_flatMap, List.mem_map,
      List.mem_flatMap, List.map_map, Option.some.injEq, exists_eq_left']
    constructor
    · rintro ⟨x, hx, s, hs, rfl⟩
      exact ⟨x, hx, s, hs, rfl⟩
    · rintro ⟨x, hx, s, hs, rfl⟩
      exact ⟨x, hx, s, hs, rfl⟩

theorem Pipeline.mem_keys_validations {p : Pipeline} {i : Identifier} :
    i ∈ p.validations.map Prod.fst ↔ ∃ x ∈ p.resourceGroups, ∃ s ∈ x.validationSteps,
      i = ⟨p.serviceGroup, x.name, s.header.name⟩ := by
  simp only [validations, List.map_flatMap, List.mem_flatMap, ResourceGroup.validations,
    List.map_map, List.mem_map, Function.comp_apply, eq_comm]

namespace GraphSource

variable {r : GraphSource} {g : Graph}

theorem Assembles.supplied (h : r.Assembles g) : ∀ s ∈ r.services, ∃ p,
    r.pipelines.lookup s.serviceGroup = some p ∧ p.serviceGroup = s.serviceGroup := by
  obtain ⟨a, ha, -⟩ := h.exists_assembly
  exact (withEarlier_serviceObjections_eq_nil_iff.1 (serviceObjections_eq_nil_of_assembly ha)).2.1

/-- Lines are written for the service groups that have steps or validation steps. -/
theorem Assembles.mem_groups_mentioned (h : r.Assembles g) {group : String} :
    group ∈ g.mentioned.map Identifier.serviceGroup ↔
      group ∈ r.services.map Service.serviceGroup ∧ r.pipelines.HasSteps group := by
  have hg := represents_of_assembles h
  have hvalidation : ∀ i, i ∈ g.validationSteps.keys ↔
      ∃ p ∈ r.pipelines.ofServices r.services, i ∈ p.validations.map Prod.fst := by
    intro i
    rw [h.validationSteps_eq, Sorted.mem_keys_ofPairs, validations, List.map_flatMap,
      List.mem_flatMap]
  simp only [List.mem_map (f := Identifier.serviceGroup), hg.mem_mentioned, hg.declared.mem_iff,
    List.mem_flatMap, hvalidation, Pipelines.mem_identifiersOf, Pipeline.mem_keys_validations]
  constructor
  · rintro ⟨_, ⟨s, hs, p, hp, x, hx, step, hstep, rfl⟩ | ⟨p, hp, x, hx, step, hstep, rfl⟩, rfl⟩
    · exact ⟨List.mem_map_of_mem hs, p, hp, x, hx, .inl (List.ne_nil_of_mem hstep)⟩
    · obtain ⟨s, hs, hp⟩ := List.mem_filterMap.1 hp
      obtain ⟨p', hp', hgroup⟩ := h.supplied s hs
      obtain rfl := Option.some.inj (hp.symm.trans hp')
      rw [hgroup]
      exact ⟨List.mem_map_of_mem hs, p, hp, x, hx, .inr (List.ne_nil_of_mem hstep)⟩
  · rintro ⟨hgroup, p, hp, x, hx, hsteps⟩
    obtain ⟨s, hs, rfl⟩ := List.mem_map.1 hgroup
    obtain ⟨p', hp', hgroup⟩ := h.supplied s hs
    obtain rfl := Option.some.inj (hp.symm.trans hp')
    rcases hsteps with hsteps | hsteps
    · obtain ⟨step, hstep⟩ := List.exists_mem_of_ne_nil _ hsteps
      exact ⟨_, .inl ⟨s, hs, p, hp, x, hx, step, hstep, rfl⟩, rfl⟩
    · obtain ⟨step, hstep⟩ := List.exists_mem_of_ne_nil _ hsteps
      have hmem : p ∈ r.pipelines.ofServices r.services := List.mem_filterMap.2 ⟨s, hs, hp⟩
      exact ⟨_, .inr ⟨p, hmem, x, hx, step, hstep, rfl⟩, hgroup⟩

theorem Assembles.mentioned_showable_iff (h : r.Assembles g) :
    (∀ i ∈ g.mentioned, Showable i.serviceGroup) ↔
      ∀ s ∈ r.services, r.pipelines.HasSteps s.serviceGroup → Showable s.serviceGroup := by
  constructor
  · intro hall s hs hsteps
    obtain ⟨i, hi, hgroup⟩ := List.mem_map.1 (h.mem_groups_mentioned.2 ⟨List.mem_map_of_mem hs, hsteps⟩)
    rw [← hgroup]
    exact hall i hi
  · intro hall i hi
    obtain ⟨hgroup, hsteps⟩ := h.mem_groups_mentioned.1 (List.mem_map_of_mem hi)
    obtain ⟨s, hs, hgroup⟩ := List.mem_map.1 hgroup
    rw [← hgroup] at hsteps ⊢
    exact hall s hs hsteps

theorem Assembles.fullyDrawn (h : r.Assembles g) : g.FullyDrawn g.drawingText := by
  have hg := represents_of_assembles h
  constructor
  case text_eq =>
    rw [Graph.drawingText, Graph.map_text_lines]
    rfl
  case steps_nodup => exact hg.distinct
  case links_nodup => exact hg.links_nodup
  case mem_links_iff_child => exact fun _ hx => hg.mem_links_iff_child hx
  case mem_links_iff_parent => exact fun _ hy => hg.mem_links_iff_parent hy
  case validation_increasing => exact g.validationSteps.increasing

/-- A graph that is built can be drawn when every service group that has a step or a validation step can
be shown, and only then. Its drawing has a statement for every step and for every link, in this order. -/
theorem toDot_of_assembles (h : r.Assembles g) :
    ((∃ text, g.toDot = .ok text) ↔
      ∀ s ∈ r.services, r.pipelines.HasSteps s.serviceGroup → Showable s.serviceGroup) ∧
    ∀ text, g.toDot = .ok text → g.FullyDrawn text := by
  constructor
  · rw [← h.mentioned_showable_iff]
    constructor
    · rintro ⟨text, htext⟩
      exact (Graph.toDot_eq_ok_iff.1 htext).1
    · intro hshown
      exact ⟨_, Graph.toDot_eq_ok_iff.2 ⟨hshown, rfl⟩⟩
  · intro text htext
    obtain ⟨-, rfl⟩ := Graph.toDot_eq_ok_iff.1 htext
    exact h.fullyDrawn

end GraphSource

/-! ## A rollout that can be drawn -/

namespace DrawnRollout

def serviceGroup : String := "Contoso.Cloud.Platform.Rollout.Network"

def step (name : String) (dependsOn : List StepReference) : Step := ⟨{ name, dependsOn }, .logs {}⟩

def ping : ValidationStep := ⟨{ name := "ping" }, { command := "make ping" }⟩

/-- Two steps in two resource groups, the second one after the first one, and a validation step. -/
def pipeline (first second : StepReference) : Pipeline where
  serviceGroup
  resourceGroups := [
    { target := ⟨first.resourceGroup, "rg", "main", []⟩, steps := [step first.step []] },
    { target := ⟨second.resourceGroup, "rg", "main", []⟩, steps := [step second.step [first]]
      validationSteps := [ping] }]

def source (first second : StepReference) : GraphSource :=
  .pipeline { serviceGroup } (pipeline first second)

variable {first second : StepReference}

theorem mem_dependencySet_step {name : String} {dependsOn : List StepReference} {r : StepReference} :
    r ∈ (step name dependsOn).dependencySet ↔ r ∈ dependsOn :=
  Step.mem_dependencySet.trans (or_iff_left List.not_mem_nil)

theorem dependsOn_iff {a b : StepReference} :
    (pipeline first second).DependsOn a b ↔ a = second ∧ b = first := by
  simp only [Pipeline.DependsOn, Pipeline.Declares, Pipeline.declaredSteps, pipeline,
    List.flatMap_cons, List.flatMap_nil, List.map_cons, List.map_nil, List.append_nil,
    List.cons_append, List.nil_append, List.mem_cons, List.not_mem_nil, or_false, Prod.mk.injEq,
    Pipeline.referenceOf, ResourceGroup.name]
  constructor
  · rintro ⟨s, ⟨x, ⟨rfl, rfl⟩ | ⟨rfl, rfl⟩, rfl⟩, hb⟩
    · exact absurd (mem_dependencySet_step.1 hb) List.not_mem_nil
    · exact ⟨rfl, List.mem_singleton.1 (mem_dependencySet_step.1 hb)⟩
  · rintro ⟨rfl, rfl⟩
    exact ⟨_, ⟨_, .inr ⟨rfl, rfl⟩, rfl⟩, mem_dependencySet_step.2 List.mem_cons_self⟩

theorem exists_graph (first second : StepReference)
    (h : first.resourceGroup ≠ second.resourceGroup) : ∃ g, (source first second).Assembles g := by
  have hcoherent : (pipeline first second).Coherent := by
    constructor
    case distinct_groups => simpa [pipeline, ResourceGroup.name] using h
    case distinct_steps => simp [pipeline]
    case one_request => simp [pipeline, Pipeline.requests, ResourceGroup.requests]
    case declared =>
      rintro ⟨x, s⟩ hd r hr
      obtain ⟨-, rfl⟩ := dependsOn_iff.1 ⟨s, ⟨x, hd, rfl⟩, hr⟩
      exact List.mem_cons_self
  have hacyclic : ¬ (pipeline first second).IsCyclic := by
    rintro ⟨r, hr⟩
    obtain ⟨_, hhead, -⟩ := Relation.TransGen.head'_iff.1 hr
    obtain ⟨_, -, htail⟩ := Relation.TransGen.tail'_iff.1 hr
    obtain ⟨rfl, -⟩ := dependsOn_iff.1 hhead
    obtain ⟨-, hfirst⟩ := dependsOn_iff.1 htail
    exact h (congrArg StepReference.resourceGroup hfirst).symm
  obtain ⟨a, -, hgraph, -⟩ := Graph.exists_forPipeline (s := { serviceGroup }) rfl hcoherent hacyclic
  exact ⟨a.graph, .inl hgraph⟩

theorem showable_serviceGroup : Showable serviceGroup := by
  decide

variable {g : Graph} (h : (source first second).Assembles g)
include h

theorem mem_identifiers {i : Identifier} : i ∈ g.nodes.map Node.identifier ↔
    i = .ofReference serviceGroup first ∨ i = .ofReference serviceGroup second := by
  have hdeclared : (source first second).services.flatMap (fun s =>
      (source first second).pipelines.identifiersOf s.serviceGroup) =
        [.ofReference serviceGroup first, .ofReference serviceGroup second] := rfl
  rw [(GraphSource.represents_of_assembles h).declared.mem_iff, hdeclared]
  simp only [List.mem_cons, List.not_mem_nil, or_false]

theorem keys_validationSteps : g.validationSteps.keys =
    [⟨serviceGroup, second.resourceGroup, "ping"⟩] := by
  rw [h.validationSteps_eq]
  rfl

theorem mem_mentioned {i : Identifier} : i ∈ g.mentioned ↔
    (i = .ofReference serviceGroup first ∨ i = .ofReference serviceGroup second) ∨
      i = ⟨serviceGroup, second.resourceGroup, "ping"⟩ := by
  rw [(GraphSource.represents_of_assembles h).mem_mentioned, mem_identifiers h,
    keys_validationSteps h, List.mem_singleton]

theorem forall_mentioned_iff {p : Identifier → Prop} : (∀ i ∈ g.mentioned, p i) ↔
    p (.ofReference serviceGroup first) ∧ p (.ofReference serviceGroup second) ∧
      p ⟨serviceGroup, second.resourceGroup, "ping"⟩ := by
  simp only [mem_mentioned h, or_imp, forall_and, forall_eq, and_assoc]

theorem exists_toDot : ∃ text, g.toDot = .ok text := by
  refine ⟨_, Graph.toDot_eq_ok_iff.2 ⟨h.mentioned_showable_iff.2 ?_, rfl⟩⟩
  exact List.forall_mem_singleton.2 fun _ => showable_serviceGroup

end DrawnRollout

theorem GraphSource.toDot_of_drawn_rollout : ∃ g,
    (DrawnRollout.source ⟨"hub", "create"⟩ ⟨"spoke", "peer"⟩).Assembles g ∧
      ∃ text, g.toDot = .ok text ∧ g.FullyDrawn text := by
  obtain ⟨g, h⟩ := DrawnRollout.exists_graph ⟨"hub", "create"⟩ ⟨"spoke", "peer"⟩ (by decide)
  obtain ⟨text, htext⟩ := DrawnRollout.exists_toDot h
  exact ⟨g, h, text, htext, (toDot_of_assembles h).2 text htext⟩

end RolloutPlan
