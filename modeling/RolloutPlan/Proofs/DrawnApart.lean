import RolloutPlan.Proofs.ReadStatements

/-!
# Steps that are drawn apart

The name of a step in a drawing joins three names with underscores, which may have underscores of their
own. The name says which words stand between underscores, but not where the resource group and the step
begin.

* `Identifier.words`, `Identifier.cuts`: the words of a name, and where they are cut.
* `Identifier.shownName_inj_iff`: steps with one name have the same words.
* `Identifier.eq_of_words_eq`: steps of one organisation with the same words and the same cuts are equal.
* `Graph.DrawnApart`: what some statements draw are the steps and links of the graph.
* `GraphSource.drawnApart_iff`: the statements that are read from a drawing draw a graph apart when no two
  of its steps have the same words, and only then.
-/

namespace RolloutPlan

set_option autoImplicit false

/-! ## Words of names -/

theorem length_splitOn {α : Type} [DecidableEq α] (a : α) (l : List α) :
    (l.splitOn a).length = l.count a + 1 := by
  induction l with
  | nil => rfl
  | cons b l ih =>
    rw [List.splitOn_cons_eq_if_modifyHead, List.count_cons]
    by_cases hb : b = a
    · simp [hb, ih]
    · simp [hb, ih]

theorem splitOn_injective {α : Type} [DecidableEq α] (a : α) :
    Function.Injective (List.splitOn a) :=
  Function.LeftInverse.injective (g := [a].intercalate) fun _ => List.intercalate_splitOn a

namespace Identifier

/-- The words of the three parts of a name, between underscores. -/
def words (i : Identifier) : List (List Char) :=
  (shownGroup i.serviceGroup).toList.splitOn '_' ++
    (i.resourceGroup.toList.splitOn '_' ++ i.step.toList.splitOn '_')

/-- The underscores in the service group and in the resource group. -/
def cuts (i : Identifier) : Nat × Nat :=
  ((shownGroup i.serviceGroup).toList.count '_', i.resourceGroup.toList.count '_')

variable {i j : Identifier}

theorem words_eq (i : Identifier) : i.words = i.shownName.toList.splitOn '_' := by
  rw [words, toList_shownName, List.splitOn_append_cons_self, List.splitOn_append_cons_self]

/-- Steps are drawn with one name when they have the same words. -/
theorem shownName_inj_iff : i.shownName = j.shownName ↔ i.words = j.words := by
  rw [words_eq, words_eq, (splitOn_injective '_').eq_iff, String.toList_inj]

/-- Words that are cut at the same places are the same parts. -/
theorem eq_of_words_eq (hi : Showable i.serviceGroup) (hj : Showable j.serviceGroup)
    (horganisation : (groupParts i.serviceGroup).take organisationParts =
      (groupParts j.serviceGroup).take organisationParts)
    (hwords : i.words = j.words) (hcuts : i.cuts = j.cuts) : i = j := by
  -- the cuts say how many words each part has, which divides the words
  obtain ⟨hgroups, hresources⟩ := Prod.mk.inj hcuts
  obtain ⟨hgroup, hrest⟩ := List.append_inj hwords (by rw [length_splitOn, length_splitOn, hgroups])
  obtain ⟨hresource, hstep⟩ :=
    List.append_inj hrest (by rw [length_splitOn, length_splitOn, hresources])
  have hgroup := String.toList_inj.1 (splitOn_injective '_' hgroup)
  have hserviceGroup := eq_of_shownGroup_eq hi hj horganisation hgroup
  have hresourceGroup := String.toList_inj.1 (splitOn_injective '_' hresource)
  have hstep := String.toList_inj.1 (splitOn_injective '_' hstep)
  cases i
  cases j
  rw [Identifier.mk.injEq]
  exact ⟨hserviceGroup, hresourceGroup, hstep⟩

theorem shownName_ne_validationName (i : Identifier) : i.shownName ≠ "serviceValidation" := by
  intro h
  have hmem : '_' ∈ i.shownName.toList := by
    rw [toList_shownName]
    exact List.mem_append_right _ List.mem_cons_self
  rw [h] at hmem
  exact absurd hmem (by decide)

end Identifier

/-! ## What a program that lays out graphs draws -/

/-- The names of nodes in a statement. Statements with one name are about one node. -/
def DrawingLine.nodeNames : DrawingLine → List String
  | .box name _ => [name]
  | .arrow before after => [before, after]

/-- The names at the beginning and the end of an arrow. -/
def DrawingLine.arrow? : DrawingLine → Option (String × String)
  | .box _ _ => none
  | .arrow before after => some (before, after)

/-- The names of the nodes in statements. -/
def namesIn (statements : List DrawingLine) : List String :=
  statements.flatMap DrawingLine.nodeNames

/-- The arrows in statements, each with the names at its beginning and its end. -/
def arrowsIn (statements : List DrawingLine) : List (String × String) :=
  statements.filterMap DrawingLine.arrow?

namespace Graph

/-- What statements draw are the steps and links of a graph, and its validation steps. -/
structure DrawnApart (g : Graph) (statements : List DrawingLine) : Prop where
  drawn : ∀ i ∈ g.mentioned,
    i.shownName ∈ namesIn statements ∧ i.shownName ≠ "serviceValidation"
  /-- Every node is one step, but for the one that validation steps hang off. -/
  one_step : ∀ name ∈ namesIn statements, name ≠ "serviceValidation" →
    ∃! i, i ∈ g.mentioned ∧ i.shownName = name
  validation_drawn_iff : "serviceValidation" ∈ namesIn statements ↔ g.validationSteps.keys ≠ []
  arrow_iff : ∀ i ∈ g.mentioned, ∀ j ∈ g.mentioned,
    (i.shownName, j.shownName) ∈ arrowsIn statements ↔ (i, j) ∈ g.links
  validation_arrow_iff : ∀ i ∈ g.mentioned,
    ("serviceValidation", i.shownName) ∈ arrowsIn statements ↔ i ∈ g.validationSteps.keys
  not_arrow_to_validation : ∀ name, (name, "serviceValidation") ∉ arrowsIn statements

end Graph

theorem Node.mem_flatMap_nodeNames {n : Node} {name : String} :
    name ∈ n.lines.flatMap DrawingLine.nodeNames ↔
      ∃ i ∈ n.identifier :: n.children, i.shownName = name := by
  simp only [lines, List.flatMap_cons, List.flatMap_map, DrawingLine.nodeNames, List.mem_append,
    List.mem_flatMap, List.mem_cons, List.not_mem_nil, or_false]
  constructor
  · rintro (rfl | ⟨c, hc, rfl | rfl⟩)
    · exact ⟨n.identifier, .inl rfl, rfl⟩
    · exact ⟨n.identifier, .inl rfl, rfl⟩
    · exact ⟨c, .inr hc, rfl⟩
  · rintro ⟨i, rfl | hi, rfl⟩
    · exact .inl rfl
    · exact .inr ⟨i, hi, .inr rfl⟩

namespace Graph

variable {g : Graph}

theorem mem_flatMap_nodeNames_validationLines {name : String} :
    name ∈ g.validationLines.flatMap DrawingLine.nodeNames ↔
      (∃ i ∈ g.validationSteps.keys, i.shownName = name) ∨
        name = "serviceValidation" ∧ g.validationSteps.keys ≠ [] := by
  simp only [validationLines, validationName, List.flatMap_map, DrawingLine.nodeNames,
    List.mem_flatMap, List.mem_cons, List.not_mem_nil, or_false]
  constructor
  · rintro ⟨i, hi, rfl | rfl⟩
    · exact .inr ⟨rfl, List.ne_nil_of_mem hi⟩
    · exact .inl ⟨i, hi, rfl⟩
  · rintro (⟨i, hi, rfl⟩ | ⟨rfl, hsteps⟩)
    · exact ⟨i, hi, .inr rfl⟩
    · obtain ⟨i, hi⟩ := List.exists_mem_of_ne_nil _ hsteps
      exact ⟨i, hi, .inl rfl⟩

theorem mem_namesIn_lines {name : String} : name ∈ namesIn g.lines ↔
    (∃ i ∈ g.mentioned, i.shownName = name) ∨ name = "serviceValidation" ∧ g.validationSteps.keys ≠ [] := by
  have hnodes : name ∈ (g.nodes.flatMap Node.lines).flatMap DrawingLine.nodeNames ↔
      ∃ i ∈ g.nodes.flatMap fun n => n.identifier :: n.children, i.shownName = name := by
    rw [List.flatMap_assoc]
    simp only [List.mem_flatMap (f := fun n : Node => n.lines.flatMap DrawingLine.nodeNames),
      Node.mem_flatMap_nodeNames, List.mem_flatMap (f := fun n : Node => n.identifier :: n.children)]
    constructor
    · rintro ⟨n, hn, i, hi, hname⟩
      exact ⟨i, ⟨n, hn, hi⟩, hname⟩
    · rintro ⟨i, ⟨n, hn, hi⟩, hname⟩
      exact ⟨n, hn, i, hi, hname⟩
  rw [namesIn, lines, List.flatMap_append, List.mem_append, hnodes,
    mem_flatMap_nodeNames_validationLines, ← or_assoc, mentioned]
  simp only [List.mem_append (s := g.nodes.flatMap _), or_and_right, exists_or]

theorem filterMap_arrow?_lines : (g.nodes.flatMap Node.lines).filterMap DrawingLine.arrow? =
    g.links.map fun e => (e.1.shownName, e.2.shownName) := by
  have hnode (n : Node) : n.lines.filterMap DrawingLine.arrow? =
      n.children.map fun c => (n.identifier.shownName, c.shownName) := by
    rw [Node.lines, List.filterMap_cons_none rfl, List.filterMap_map, ← List.filterMap_eq_map]
    rfl
  rw [links, List.filterMap_flatMap, List.map_flatMap]
  refine List.flatMap_congr fun n _ => ?_
  rw [hnode n, List.map_map]
  rfl

theorem mem_arrowsIn_lines {before after : String} : (before, after) ∈ arrowsIn g.lines ↔
    (∃ e ∈ g.links, e.1.shownName = before ∧ e.2.shownName = after) ∨
      before = "serviceValidation" ∧ ∃ i ∈ g.validationSteps.keys, i.shownName = after := by
  have hvalidation : g.validationLines.filterMap DrawingLine.arrow? =
      g.validationSteps.keys.map fun i => ("serviceValidation", i.shownName) := by
    rw [validationLines, List.filterMap_map, ← List.filterMap_eq_map]
    rfl
  rw [arrowsIn, lines, List.filterMap_append, filterMap_arrow?_lines, hvalidation,
    List.mem_append]
  simp only [List.mem_map (f := fun e : Identifier × Identifier => (e.1.shownName, e.2.shownName)),
    List.mem_map (f := fun i : Identifier => ("serviceValidation", i.shownName)), Prod.mk.injEq]
  refine or_congr_right ⟨?_, ?_⟩
  · rintro ⟨i, hi, rfl, hname⟩
    exact ⟨rfl, i, hi, hname⟩
  · rintro ⟨rfl, i, hi, hname⟩
    exact ⟨i, hi, rfl, hname⟩

/-- Every step has its box. -/
theorem box_mem_lines {i : Identifier} (hi : i ∈ g.nodes.map Node.identifier) {name label : String}
    (hname : i.shownName = name) (hlabel : i.shownLabel = label) : .box name label ∈ g.lines := by
  subst hname hlabel
  obtain ⟨n, hn, rfl⟩ := List.mem_map.1 hi
  exact List.mem_append_left _ (List.mem_flatMap.2 ⟨n, hn, List.mem_cons_self⟩)

theorem mentioned_of_mem_links {e : Identifier × Identifier} (he : e ∈ g.links) :
    e.1 ∈ g.mentioned ∧ e.2 ∈ g.mentioned := by
  obtain ⟨n, hn, he⟩ := List.mem_flatMap.1 he
  obtain ⟨c, hc, rfl⟩ := List.mem_map.1 he
  have hmentioned {i : Identifier} (hi : i ∈ n.identifier :: n.children) : i ∈ g.mentioned :=
    List.mem_append_left _ (List.mem_flatMap.2 ⟨n, hn, hi⟩)
  exact ⟨hmentioned List.mem_cons_self, hmentioned (List.mem_cons_of_mem _ hc)⟩

theorem DrawnApart.eq_of_shownName_eq {statements : List DrawingLine} (h : g.DrawnApart statements)
    {i j : Identifier} (hi : i ∈ g.mentioned) (hj : j ∈ g.mentioned)
    (hname : i.shownName = j.shownName) : i = j := by
  obtain ⟨hdrawn, hne⟩ := h.drawn i hi
  obtain ⟨k, -, hunique⟩ := h.one_step _ hdrawn hne
  rw [hunique i ⟨hi, rfl⟩, hunique j ⟨hj, hname.symm⟩]

theorem drawnApart_of_eq_of_shownName_eq
    (h : ∀ i ∈ g.mentioned, ∀ j ∈ g.mentioned, i.shownName = j.shownName → i = j) :
    g.DrawnApart g.lines := by
  have hvalidation : ∀ i ∈ g.validationSteps.keys, i ∈ g.mentioned :=
    fun i hi => List.mem_append_right _ hi
  constructor
  case drawn =>
    intro i hi
    exact ⟨mem_namesIn_lines.2 (.inl ⟨i, hi, rfl⟩), i.shownName_ne_validationName⟩
  case one_step =>
    intro name hname hne
    obtain ⟨i, hi, rfl⟩ := (mem_namesIn_lines.1 hname).resolve_right fun hv => hne hv.1
    exact ⟨i, ⟨hi, rfl⟩, fun j hj => h j hj.1 i hi hj.2⟩
  case validation_drawn_iff =>
    rw [mem_namesIn_lines, or_iff_right, and_iff_right rfl]
    rintro ⟨i, -, hi⟩
    exact i.shownName_ne_validationName hi
  case arrow_iff =>
    intro i hi j hj
    rw [mem_arrowsIn_lines, or_iff_left fun hv => i.shownName_ne_validationName hv.1]
    constructor
    · rintro ⟨⟨a, b⟩, he, ha, hb⟩
      obtain ⟨ha', hb'⟩ := mentioned_of_mem_links he
      rwa [← h a ha' i hi ha, ← h b hb' j hj hb]
    · intro he
      exact ⟨_, he, rfl, rfl⟩
  case validation_arrow_iff =>
    intro i hi
    rw [mem_arrowsIn_lines, or_iff_right, and_iff_right rfl]
    · constructor
      · rintro ⟨j, hj, hname⟩
        rwa [← h j (hvalidation j hj) i hi hname]
      · intro hi
        exact ⟨i, hi, rfl⟩
    · rintro ⟨e, -, he, -⟩
      exact e.1.shownName_ne_validationName he
  case not_arrow_to_validation =>
    intro name hname
    rcases mem_arrowsIn_lines.1 hname with ⟨e, -, -, he⟩ | ⟨-, i, -, hi⟩
    · exact e.2.shownName_ne_validationName he
    · exact i.shownName_ne_validationName hi

/-! ## Graphs of one organisation -/

/-- The service groups of a graph have the same parts at their beginnings, and further parts. -/
def OfOneOrganisation (g : Graph) : Prop := ∃ organisation, ∀ group ∈ g.services.keys,
  Showable group ∧ (groupParts group).take organisationParts = organisation

end Graph

namespace GraphSource

variable {r : GraphSource} {g : Graph}

theorem Assembles.serviceGroup_mem_services (h : r.Assembles g) {i : Identifier}
    (hi : i ∈ g.mentioned) : i.serviceGroup ∈ g.services.keys :=
  ((represents_of_assembles h).recorded _).2 (h.mem_groups_mentioned.1 (List.mem_map_of_mem hi)).1

/-- The drawing of a graph of one organisation names every step. Two steps have one name when they have
the same words, and only then; if these are cut at the same places, the steps are equal. A reader of the
drawing, if its names can stand in quotes, finds the steps and links of the graph when no two of its steps
have the same words, and only then. -/
theorem drawnApart_iff (h : r.Assembles g) (hone : g.OfOneOrganisation) :
    ∃ text, g.toDot = .ok text ∧ g.FullyDrawn text ∧
      (∀ i ∈ g.mentioned, ∀ j ∈ g.mentioned, i.shownName = j.shownName ↔ i.words = j.words) ∧
      (∀ i ∈ g.mentioned, ∀ j ∈ g.mentioned, i.words = j.words → i.cuts = j.cuts → i = j) ∧
      ((∀ i ∈ g.mentioned, i.Quotable) → ∃ statements, readStatements? text = some statements ∧
        (g.DrawnApart statements ↔
          ∀ i ∈ g.mentioned, ∀ j ∈ g.mentioned, i.words = j.words → i = j)) := by
  obtain ⟨organisation, hone⟩ := hone
  have hgroup (i : Identifier) (hi : i ∈ g.mentioned) := hone _ (h.serviceGroup_mem_services hi)
  refine ⟨_, Graph.toDot_eq_ok_iff.2 ⟨fun i hi => (hgroup i hi).1, rfl⟩, h.fullyDrawn,
    fun i _ j _ => Identifier.shownName_inj_iff, ?_, ?_⟩
  · intro i hi j hj
    obtain ⟨hishown, hi⟩ := hgroup i hi
    obtain ⟨hjshown, hj⟩ := hgroup j hj
    exact Identifier.eq_of_words_eq hishown hjshown (hi.trans hj.symm)
  · intro hquotable
    refine ⟨g.lines, Graph.readStatements?_drawingText hquotable, ?_, ?_⟩
    · intro hapart i hi j hj hwords
      exact hapart.eq_of_shownName_eq hi hj (Identifier.shownName_inj_iff.2 hwords)
    · intro hwords
      refine Graph.drawnApart_of_eq_of_shownName_eq fun i hi j hj hname => ?_
      exact hwords i hi j hj (Identifier.shownName_inj_iff.1 hname)

end GraphSource

theorem DrawnRollout.ofOneOrganisation {first second : StepReference} {g : Graph}
    (h : (DrawnRollout.source first second).Assembles g) : g.OfOneOrganisation := by
  refine ⟨(groupParts DrawnRollout.serviceGroup).take organisationParts, fun group hgroup => ?_⟩
  obtain rfl := List.mem_singleton.1 (((GraphSource.represents_of_assembles h).recorded _).1 hgroup)
  exact ⟨DrawnRollout.showable_serviceGroup, rfl⟩

theorem GraphSource.drawnApart_of_different_words : ∃ g text statements,
    (DrawnRollout.source ⟨"hub", "create"⟩ ⟨"spoke", "peer"⟩).Assembles g ∧
      g.OfOneOrganisation ∧ g.toDot = .ok text ∧ readStatements? text = some statements ∧
        g.DrawnApart statements := by
  obtain ⟨g, h⟩ := DrawnRollout.exists_graph ⟨"hub", "create"⟩ ⟨"spoke", "peer"⟩ (by decide)
  have hone := DrawnRollout.ofOneOrganisation h
  obtain ⟨text, htext, -, -, -, hread⟩ := drawnApart_iff h hone
  have hquotable : ∀ i ∈ g.mentioned, i.Quotable := by
    rw [DrawnRollout.forall_mentioned_iff h]
    decide
  have hwords : ∀ i ∈ g.mentioned, ∀ j ∈ g.mentioned, i.words = j.words → i = j := by
    simp only [DrawnRollout.forall_mentioned_iff h]
    decide
  obtain ⟨statements, hstatements, hapart⟩ := hread hquotable
  exact ⟨g, text, statements, h, hone, htext, hstatements, hapart.2 hwords⟩

/-- Two steps of a service that are drawn as one node, which has both their labels. -/
theorem GraphSource.one_node_of_equal_words : ∃ g text statements,
    (DrawnRollout.pipeline ⟨"hub", "east_peer"⟩ ⟨"hub_east", "peer"⟩).validate = .ok () ∧
    (DrawnRollout.source ⟨"hub", "east_peer"⟩ ⟨"hub_east", "peer"⟩).Assembles g ∧
    g.OfOneOrganisation ∧ g.toDot = .ok text ∧ readStatements? text = some statements ∧
    ⟨DrawnRollout.serviceGroup, "hub", "east_peer"⟩ ∈ g.nodes.map Node.identifier ∧
    ⟨DrawnRollout.serviceGroup, "hub_east", "peer"⟩ ∈ g.nodes.map Node.identifier ∧
    .box "Network_hub_east_peer" "Network/hub/east_peer" ∈ statements ∧
    .box "Network_hub_east_peer" "Network/hub_east/peer" ∈ statements := by
  obtain ⟨g, h⟩ := DrawnRollout.exists_graph ⟨"hub", "east_peer"⟩ ⟨"hub_east", "peer"⟩ (by decide)
  obtain ⟨text, htext⟩ := DrawnRollout.exists_toDot h
  obtain ⟨-, rfl⟩ := Graph.toDot_eq_ok_iff.1 htext
  have hquotable : ∀ i ∈ g.mentioned, i.Quotable := by
    rw [DrawnRollout.forall_mentioned_iff h]
    decide
  have hfirst := (DrawnRollout.mem_identifiers h).2 (.inl rfl)
  have hsecond := (DrawnRollout.mem_identifiers h).2 (.inr rfl)
  refine ⟨g, _, g.lines, by decide, h, DrawnRollout.ofOneOrganisation h, htext,
    Graph.readStatements?_drawingText hquotable, hfirst, hsecond, ?_, ?_⟩
  · exact Graph.box_mem_lines hfirst (by decide) (by decide)
  · exact Graph.box_mem_lines hsecond (by decide) (by decide)

end RolloutPlan
