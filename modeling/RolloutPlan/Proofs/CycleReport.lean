import RolloutPlan.Proofs.Drawing
import RolloutPlan.Proofs.Loading
import RolloutPlan.Proofs.Search

/-!
# Reporting a cycle

A graph with a cycle is drawn before the cycle is reported. If the graph cannot be drawn, or the drawing
cannot be written, that is what the command reports, and nothing is said about the cycle.

* `graphCommand_eq_of_cycle`: the command draws the graph and then fails with the cycle.
* `graphCommand_reports_cycle_iff`: when the cycle is reported, and what is reported otherwise.
* `LoopedRollout`: one step that waits for itself, in a service group that is too short to be drawn.
  `graphCommand_hides_loop`: the cycle is not reported.
-/

namespace RolloutPlan

set_option autoImplicit false

theorem graphCommand_eq_of_cycle {read : Reading} {coloured : Bool} {q : GraphRequest} {r : Rollout}
    {path : List Identifier} {g : Graph} (hload : Rollout.loadValid read q.topology = .ok r)
    (hbuild : q.build r = .error ⟨[], .graph (.cycle path g)⟩) : graphCommand read coloured q =
      drawThen q g (.failed ⟨[.buildingGraph], .graph (.cycle path g)⟩) := by
  unfold graphCommand graphRun
  rw [hload]
  simp only [hbuild]
  rfl

/-- A cycle is reported when no drawing is asked for or the drawing of the graph is written. Otherwise
the command reports why there is no drawing. -/
theorem graphCommand_reports_cycle_iff {read : Reading} {files : Files} {host : Host}
    {coloured : Bool} {q : GraphRequest} {r : Rollout} {path : List Identifier} {g : Graph}
    (hload : Rollout.loadValid read q.topology = .ok r)
    (hbuild : q.build r = .error ⟨[], .graph (.cycle path g)⟩) :
    (((graphCommand read coloured q).performOn host files).result =
        .error ⟨[.buildingGraph], .graph (.cycle path g)⟩ ↔
      ∀ target, q.drawing = some target →
        ∃ text, g.toDot = .ok text ∧ ∃ files', files.write host target text = .ok files') ∧
    (∀ target e, q.drawing = some target → g.toDot = .error e →
      ((graphCommand read coloured q).performOn host files).result = .error ⟨[], .graph e⟩) ∧
    (∀ target text e, q.drawing = some target → g.toDot = .ok text →
      files.write host target text = .error e →
        ((graphCommand read coloured q).performOn host files).result =
          .error ⟨[.writingDrawing target], .unreadable e⟩) := by
  rw [graphCommand_eq_of_cycle hload hbuild]
  refine ⟨⟨?_, ?_⟩, ?_, ?_⟩
  · intro h target hq
    cases htext : g.toDot with
    | error e =>
      rw [performOn_drawThen_short hq htext] at h
      cases h
    | ok text =>
      cases hwrite : files.write host target text with
      | error e =>
        rw [performOn_drawThen_unwritten hq htext hwrite] at h
        cases h
      | ok files' => exact ⟨text, rfl, files', hwrite⟩
  · intro h
    cases hq : q.drawing with
    | none =>
      rw [performOn_drawThen_none hq]
      rfl
    | some target =>
      obtain ⟨text, htext, files', hwrite⟩ := h target hq
      rw [performOn_drawThen_written hq htext hwrite]
      rfl
  · intro target e hq htext
    rw [performOn_drawThen_short hq htext]
  · intro target text e hq htext hwrite
    rw [performOn_drawThen_unwritten hq htext hwrite]

/-! ## A step that waits for itself -/

namespace LoopedRollout

open Yaml

def topologyText : String :=
  "services:\n" ++
  "  - serviceGroup: network\n" ++
  "    pipelinePath: network.yaml\n"

def pipelineText : String :=
  "serviceGroup: network\n" ++
  "resourceGroups:\n" ++
  "  - name: rg\n" ++
  "    resourceGroup: rg\n" ++
  "    subscription: main\n" ++
  "    steps:\n" ++
  "      - action: Logs\n" ++
  "        name: create\n" ++
  "        dependsOn:\n" ++
  "          - resourceGroup: rg\n" ++
  "            step: create\n"

def files : Files :=
  ⟨[(["topology.yaml".toList], some topologyText), (["network.yaml".toList], some pipelineText)]⟩

def topology : Topology :=
  { services := [{ serviceGroup := "network", pipelinePath := some "network.yaml" }] }

def pipeline : Pipeline where
  serviceGroup := "network"
  resourceGroups := [{
    target := ⟨"rg", "rg", "main", []⟩
    steps := [⟨{ name := "create", dependsOn := [⟨"rg", "create"⟩] }, .logs {}⟩] }]

def rollout : Rollout := ⟨topology, .single "network" pipeline⟩

def request : GraphRequest := { topology := "topology.yaml", entrypoints := ["network"] }

def drawnRequest : GraphRequest := { request with drawing := some "out.dot" }

/-! ### Reading the files -/

def scalarTokens (text : String) : List Token := [.scalar text .plain]

def mappingTokens (entries : List (String × List Token)) : List Token :=
  .blockMapping :: (entries.flatMap fun (key, value) =>
    .key :: .scalar key .plain :: .value :: value) ++ [.blockEnd]

def itemTokens (item : List Token) : List Token := .blockSequence :: .entry :: (item ++ [.blockEnd])

def topologyTokens : List Token :=
  mappingTokens [("services", itemTokens (mappingTokens
    [("serviceGroup", scalarTokens "network"), ("pipelinePath", scalarTokens "network.yaml")]))] ++
  [.streamEnd]

def pipelineTokens : List Token :=
  mappingTokens [("serviceGroup", scalarTokens "network"), ("resourceGroups", itemTokens
    (mappingTokens [("name", scalarTokens "rg"), ("resourceGroup", scalarTokens "rg"),
      ("subscription", scalarTokens "main"), ("steps", itemTokens
        (mappingTokens [("action", scalarTokens "Logs"), ("name", scalarTokens "create"),
          ("dependsOn", itemTokens (mappingTokens
            [("resourceGroup", scalarTokens "rg"), ("step", scalarTokens "create")]))]))]))] ++
  [.streamEnd]

theorem scan_topologyText : Token.scan topologyText = some topologyTokens := by
  decide +kernel

theorem scan_pipelineText : Token.scan pipelineText = some pipelineTokens := by
  decide +kernel

set_option maxRecDepth 4000 in
theorem read?_topologyText : Topology.read? topologyText = some topology := by
  rw [Topology.read?, Tree.ofText?, scan_topologyText]
  rfl

set_option maxRecDepth 4000 in
theorem read?_pipelineText : Pipeline.read? pipelineText = some pipeline := by
  rw [Pipeline.read?, Tree.ofText?, scan_pipelineText]
  rfl

theorem load_topology : Topology.load files.read "topology.yaml" = .ok topology :=
  Topology.load_eq_ok_iff.2 ⟨topologyText, rfl, read?_topologyText⟩

theorem load_pipeline : Pipeline.load files.read "network.yaml" = .ok pipeline :=
  Pipeline.load_eq_ok_iff.2
    ⟨pipelineText, rfl, read?_pipelineText, pipeline.validate_eq_ok_iff.1 rfl⟩

theorem loadValid_eq {q : GraphRequest} (hq : q.topology = "topology.yaml") :
    Rollout.loadValid files.read q.topology = .ok rollout := by
  have hpaths : Rollout.pipelinePaths "topology.yaml" topology = [("network", "network.yaml")] := by
    cbv
  have hsound : topology.Sound := topology.validate_eq_ok_iff.1 rfl
  rw [hq, Rollout.loadValid_eq_ok_iff, Rollout.load_eq_ok_iff]
  refine ⟨⟨load_topology, ?_⟩, hsound⟩
  change Rollout.loadPipelines files.read ∅ (Rollout.pipelinePaths "topology.yaml" topology) = _
  rw [hpaths, Rollout.loadPipelines, load_pipeline]
  rfl

/-! ### The cycle -/

def looped : Identifier := ⟨"network", "rg", "create"⟩

def nodes : List Node := [⟨looped, [looped], [looped]⟩]

theorem findObstacle?_nodes : findObstacle? nodes = some (.cycle [looped, looped]) := by
  simp [findObstacle?, ChildIndex.exploreAll, nodes, ChildIndex.explore_cons]

/-- Building the graph fails with a cycle of one step. -/
theorem exists_build_eq : ∃ g : Graph, g.nodes = nodes ∧ ∀ q : GraphRequest, q.service = none →
    q.entrypoints = ["network"] →
      q.build rollout = .error ⟨[], .graph (.cycle [looped, looped] g)⟩ := by
  have hnodes : ((Assembly.addEntrypoints rollout.pipelines topology {}
      [{ identifier := "network" }]).map fun a => a.graph.nodes) = .ok nodes := by
    cbv
  obtain ⟨a, ha, hgraph⟩ := map_eq_ok.1 hnodes
  have hresult : Graph.forEntrypoints topology [{ identifier := "network" }] rollout.pipelines =
      .error (.cycle [looped, looped] a.graph) := by
    rw [Graph.forEntrypoints, ha]
    change a.graph.checked = _
    rw [Graph.checked, hgraph, findObstacle?_nodes]
  refine ⟨a.graph, hgraph, fun q hservice hentrypoints => ?_⟩
  have hq : q.entrypointsOf rollout.topology = [{ identifier := "network" }] := by
    rw [GraphRequest.entrypointsOf, hentrypoints]
    rfl
  unfold GraphRequest.build
  simp only [hservice, hq]
  change liftGraph (Graph.forEntrypoints topology _ rollout.pipelines) = _
  rw [hresult]
  rfl

/-- Its service group has no parts to drop. -/
theorem toDot_eq {g : Graph} (h : g.nodes = nodes) :
    g.toDot = .error (.shortServiceGroup "network") := by
  have hshort : dropParts? organisationParts "network".toList = none := by decide
  have hone : shortObjections "network" = [.shortServiceGroup "network"] := by
    rw [shortObjections, objectIf, if_pos hshort]
  have hnode : Node.drawingObjections ⟨looped, [looped], [looped]⟩ =
      .shortServiceGroup "network" :: (shortObjections looped.serviceGroup ++
        [looped].flatMap fun c => shortObjections c.serviceGroup) := by
    rw [Node.drawingObjections, looped, hone, List.singleton_append]
  rw [g.checks_toDot.error_iff, Graph.drawingObjections, h, nodes, List.flatMap_cons, hnode,
    List.cons_append, List.cons_append, List.head?_cons]

end LoopedRollout

/-- The cycle is reported when no drawing is asked for. -/
theorem graphCommand_reports_loop : ∃ g,
    Rollout.loadValid LoopedRollout.files.read LoopedRollout.request.topology =
      .ok LoopedRollout.rollout ∧
    LoopedRollout.request.build LoopedRollout.rollout = .error ⟨[], .graph
      (.cycle [LoopedRollout.looped, LoopedRollout.looped] g)⟩ ∧
    ((graphCommand LoopedRollout.files.read false LoopedRollout.request).perform
      LoopedRollout.files).result = .error ⟨[.buildingGraph], .graph
        (.cycle [LoopedRollout.looped, LoopedRollout.looped] g)⟩ := by
  obtain ⟨g, -, hbuild⟩ := LoopedRollout.exists_build_eq
  have hload := LoopedRollout.loadValid_eq (q := LoopedRollout.request) rfl
  have hcycle := hbuild LoopedRollout.request rfl rfl
  refine ⟨g, hload, hcycle, (graphCommand_reports_cycle_iff hload hcycle).1.2 ?_⟩
  intro target htarget
  cases htarget

/-- The cycle is hidden when a drawing is asked for: the service group is too short to be drawn. -/
theorem graphCommand_hides_loop : ∃ g,
    Rollout.loadValid LoopedRollout.files.read LoopedRollout.drawnRequest.topology =
      .ok LoopedRollout.rollout ∧
    LoopedRollout.drawnRequest.build LoopedRollout.rollout = .error ⟨[], .graph
      (.cycle [LoopedRollout.looped, LoopedRollout.looped] g)⟩ ∧
    ((graphCommand LoopedRollout.files.read false LoopedRollout.drawnRequest).perform
      LoopedRollout.files).result = .error ⟨[], .graph (.shortServiceGroup "network")⟩ := by
  obtain ⟨g, hnodes, hbuild⟩ := LoopedRollout.exists_build_eq
  have hload := LoopedRollout.loadValid_eq (q := LoopedRollout.drawnRequest) rfl
  have hcycle := hbuild LoopedRollout.drawnRequest rfl rfl
  have hdrawing : LoopedRollout.drawnRequest.drawing = some "out.dot" := rfl
  refine ⟨g, hload, hcycle, ?_⟩
  rw [Run.perform, graphCommand_eq_of_cycle hload hcycle,
    performOn_drawThen_short hdrawing (LoopedRollout.toDot_eq hnodes)]

end RolloutPlan
