import RolloutPlan.Proofs.AssemblyOutcome
import RolloutPlan.Proofs.Drawing
import RolloutPlan.Proofs.Loading

/-!
# What a validation promises

A rollout that has been validated has sound pipelines and a sound topology. A graph of it can then fail
because its pipelines do not fit together, because of a cycle, or because of what it was asked for.

* `Topology.Overlaps`: entrypoints select a service twice.
* `GraphRequest.MayFailWith`: the causes that a validation leaves.
  `GraphRequest.mayFailWith_of_build`: why no graph is built.
* `graphCommand_after_validateCommand`: a rollout that is not valid has no graph, and of a valid one only
  these causes come up.
-/

namespace RolloutPlan

set_option autoImplicit false

/-! ## Sound pipelines in a graph -/

/-- A service is there already, or its pipeline does not fit. -/
theorem mem_serviceObjections_cases_of_sound {pipelines : Pipelines} {earlier : List Service}
    {s : Service} (hsound : ∀ p, pipelines.lookup s.serviceGroup = some p → p.Sound)
    {e : GraphError} (h : e ∈ serviceObjections pipelines earlier s) :
    e = .duplicateService s.serviceGroup ∧
        s.serviceGroup ∈ earlier.map Service.serviceGroup ∨ e.IsMismatch := by
  refine (mem_serviceObjections_cases h).imp_right ?_
  rintro (h | ⟨p, hp, h⟩)
  · exact h
  · rw [(hsound p hp).eq_of_mem_objections h]
    trivial

/-! ## Entrypoints of a sound topology -/

namespace Topology

/-- Two of some entrypoints select the same sub-tree, or one of them stands in the sub-tree of the
other. -/
def Overlaps (t : Topology) (entrypoints : List Entrypoint) : Prop :=
  ∃ e e', [e, e'].Sublist entrypoints ∧ ∃ s s', t.lookup? e.identifier = some s ∧
    t.lookup? e'.identifier = some s' ∧ (s ∈ s'.preorder ∨ s' ∈ s.preorder)

theorem mem_selected {t : Topology} {entrypoints : List Entrypoint} {s : Service} :
    s ∈ t.selected entrypoints ↔
      ∃ e ∈ entrypoints, ∃ root, t.lookup? e.identifier = some root ∧ s ∈ root.preorder := by
  unfold selected
  rw [List.mem_flatMap]
  refine exists_congr fun e => and_congr_right fun _ => ?_
  cases t.lookup? e.identifier <;> simp

/-- What speaks against entrypoints of a sound topology: they are not found, they overlap, or pipelines
do not fit. -/
theorem mem_objections_cases_of_sound {t : Topology} {pipelines : Pipelines}
    {entrypoints : List Entrypoint} (ht : (t.preorder.map Service.serviceGroup).Nodup)
    (hsound : ∀ group p, pipelines.lookup group = some p → p.Sound) {e : GraphError}
    (h : e ∈ t.objections pipelines entrypoints) :
    (∃ d ∈ entrypoints, e = .unknownEntrypoint d.identifier ⟨d.identifier⟩ ∧
        d.identifier ∉ t.preorder.map Service.serviceGroup) ∨
      (∃ group, e = .duplicateService group) ∧ t.Overlaps entrypoints ∨ e.IsMismatch := by
  rcases mem_objections_cases h with ⟨d, hd, hnone, rfl⟩ | ⟨l₁, d, l₂, s, heq, hd, m₁, x, m₂, hs, h⟩
  · exact .inl ⟨d, hd, rfl, lookup?_eq_none_iff.1 hnone⟩
  · refine .inr ((mem_serviceObjections_cases_of_sound (hsound _) h).imp_left ?_)
    rintro ⟨rfl, hx⟩
    refine ⟨⟨_, rfl⟩, ?_⟩
    have hmem := mem_preorder_of_lookup? hd
    have hnodup : (s.preorder.map Service.serviceGroup).Nodup :=
      ((Service.infix_preorderAll hmem).map _).nodup ht
    rw [List.map_append, List.mem_append] at hx
    rcases hx with hx | hx
    · obtain ⟨y, hy, hyx⟩ := List.mem_map.1 hx
      obtain ⟨d', hd', s', hs', hy⟩ := mem_selected.1 hy
      refine ⟨d', d, ?_, s', s, hs', hd, ?_⟩
      · rw [heq]
        exact (List.singleton_sublist.2 hd').append (List.singleton_sublist.2 List.mem_cons_self)
      · exact (mem_preorder_of_common ht (mem_preorder_of_lookup? hs') hmem hy (by simp [hs])
          hyx).symm
    · exact absurd hx (nodup_map_iff.1 hnodup m₁ x m₂ hs)

end Topology

/-! ## What is left to go wrong -/

/-- What a graph of a valid rollout can fail with. A service that is not found was asked for by name,
a service that comes twice was selected by two of the entrypoints, and only who asks for a drawing is told
that there is none. -/
def GraphRequest.MayFailWith (q : GraphRequest) (t : Topology) : Cause → Prop
  | .unreadable _ => q.drawing.isSome
  | .undecodable _ => False
  | .topology _ => False
  | .pipeline _ => False
  | .service e => q.service = some e.serviceGroup ∧
      e.serviceGroup ∉ t.preorder.map Service.serviceGroup
  | .noTopology => False
  | .noEntrypoints => q.service = none ∧ q.entrypointsOf t = []
  | .noPipeline group => q.service = some group
  | .graph (.duplicateService _) => q.service = none ∧ t.Overlaps (q.entrypointsOf t)
  | .graph (.duplicateResourceGroup ..) => False
  | .graph (.duplicateStep ..) => False
  | .graph (.unknownPipeline ..) => True
  | .graph (.otherServiceGroup ..) => True
  | .graph (.unknownDependency ..) => False
  | .graph (.severalSubscriptions ..) => True
  | .graph (.conflictingTargets ..) => True
  | .graph (.duplicateSubscription ..) => True
  | .graph (.unknownEntrypoint identifier _) => q.service = none ∧ identifier ∈ q.entrypoints ∧
      identifier ∉ t.preorder.map Service.serviceGroup
  | .graph (.cycle ..) => True
  | .graph (.missingNode _) => False
  | .graph (.shortServiceGroup _) => q.drawing.isSome

@[simp] theorem liftGraph_eq_error_iff {α : Type} {x : Except GraphError α} {f : Failure} :
    liftGraph x = .error f ↔ ∃ e, x = .error e ∧ f = ⟨[], .graph e⟩ := by
  cases x <;> simp [liftGraph, eq_comm]

namespace GraphRequest
variable {q : GraphRequest} {r : Rollout}

theorem mayFailWith_of_isMismatch {t : Topology} {e : GraphError} (h : e.IsMismatch) :
    q.MayFailWith t (.graph e) := by
  cases e <;> trivial

theorem mayFailWith_of_buildService (hsound : ∀ group p, r.pipelines.lookup group = some p → p.Sound)
    {group : String} (hq : q.service = some group) {f : Failure}
    (h : buildService r group = .error f) : q.MayFailWith r.topology f.cause := by
  unfold buildService at h
  split at h
  · rename_i e he
    obtain rfl := Except.error.inj h
    obtain ⟨rfl, hgroup⟩ := Topology.lookup_eq_error_iff.1 he
    exact ⟨hq, hgroup⟩
  · split at h
    · obtain rfl := Except.error.inj h
      exact hq
    · rename_i s _ _ p hp
      obtain ⟨e, he, rfl⟩ := liftGraph_eq_error_iff.1 h
      rcases Graph.mem_objections_of_forPipeline he with ⟨path, g, rfl⟩ | he
      · trivial
      · have hone : ∀ p', (Pipelines.single s.serviceGroup p).lookup s.serviceGroup = some p' →
            p'.Sound := by
          intro p' hp'
          rw [Pipelines.lookup_single] at hp'
          exact Option.some.inj hp' ▸ hsound group p hp
        rcases mem_serviceObjections_cases_of_sound hone he with ⟨-, hnone⟩ | he
        · cases hnone
        · exact mayFailWith_of_isMismatch he

/-- Entrypoints that are not given are those of the topology, and they are found. -/
theorem mem_entrypoints_of_not_found (ht : r.topology.Sound) {d : Entrypoint}
    (hd : d ∈ q.entrypointsOf r.topology)
    (hnot : d.identifier ∉ r.topology.preorder.map Service.serviceGroup) :
    d.identifier ∈ q.entrypoints := by
  unfold entrypointsOf at hd
  split_ifs at hd
  · exact absurd (ht.found d hd) hnot
  · obtain ⟨identifier, hidentifier, rfl⟩ := List.mem_map.1 hd
    exact hidentifier

/-- Why no graph of a valid rollout is built. -/
theorem mayFailWith_of_build (ht : r.topology.Sound)
    (hsound : ∀ group p, r.pipelines.lookup group = some p → p.Sound) {f : Failure}
    (h : q.build r = .error f) : q.MayFailWith r.topology f.cause := by
  unfold build at h
  split at h
  · rename_i group hq
    exact mayFailWith_of_buildService hsound hq h
  · rename_i hq
    split at h
    · rename_i hnone
      obtain rfl := Except.error.inj h
      exact ⟨hq, hnone⟩
    · obtain ⟨e, he, rfl⟩ := liftGraph_eq_error_iff.1 h
      rcases Graph.mem_objections_of_forEntrypoints he with ⟨path, g, rfl⟩ | he
      · trivial
      rcases Topology.mem_objections_cases_of_sound ht.distinct hsound he with
        ⟨d, hd, rfl, hnot⟩ | ⟨⟨group, rfl⟩, hoverlaps⟩ | he
      · exact ⟨hq, mem_entrypoints_of_not_found ht hd hnot, hnot⟩
      · exact ⟨hq, hoverlaps⟩
      · exact mayFailWith_of_isMismatch he

end GraphRequest

/-! ## Commands -/

section Commands
variable {read : Reading} {q : GraphRequest} {r : Rollout} {coloured : Bool} {host : Host}
  {files : Files}

theorem GraphRequest.mayFailWith_of_drawThen {g : Graph} {next : Run} {t : Topology} {f : Failure}
    (h : ((drawThen q g next).performOn host files).result = .error f)
    (hnext : ∀ files', (next.performOn host files').result = .error f → q.MayFailWith t f.cause) :
    q.MayFailWith t f.cause := by
  rcases error_cases_of_drawThen h with ⟨files', h⟩ | ⟨path, hq, ⟨e, rfl⟩ | ⟨group, rfl⟩⟩
  · exact hnext files' h
  · exact Option.isSome_of_mem hq
  · exact Option.isSome_of_mem hq

theorem GraphRequest.mayFailWith_of_graphRun (ht : r.topology.Sound)
    (hsound : ∀ group p, r.pipelines.lookup group = some p → p.Sound) {f : Failure}
    (h : ((graphRun coloured q r).performOn host files).result = .error f) :
    q.MayFailWith r.topology f.cause := by
  unfold graphRun at h
  split at h
  · exact mayFailWith_of_drawThen h fun files' hreport => nomatch hreport
  · rename_i f' hf'
    have hfailed (files' : Files)
        (hf : ((Run.failed (f'.within .buildingGraph)).performOn host files').result = .error f) :
        q.MayFailWith r.topology f.cause := by
      obtain rfl := Except.error.inj hf
      exact mayFailWith_of_build (f := f') ht hsound hf'
    simp only at h
    split at h
    · exact mayFailWith_of_drawThen h hfailed
    · exact hfailed files h

/-- If a rollout is not valid, the command that builds a graph of it fails in the same way, and neither
changes a file nor prints. If it is valid, that command can only fail for the causes that are left. -/
theorem graphCommand_after_validateCommand (read : Reading) (path : String) (coloured : Bool)
    (host : Host) (files : Files) :
    (∀ f, ((validateCommand read coloured path).performOn host files).result = .error f →
      ∀ coloured' q, q.topology = path →
        (graphCommand read coloured' q).performOn host files = ⟨.error f, files, []⟩) ∧
    (((validateCommand read coloured path).performOn host files).result = .ok () →
      ∃ r, Rollout.load read path = .ok r ∧ ∀ coloured' q, q.topology = path →
        ∀ f, ((graphCommand read coloured' q).performOn host files).result = .error f →
          q.MayFailWith r.topology f.cause) := by
  unfold validateCommand graphCommand
  cases hload : Rollout.loadValid read path with
  | error f =>
    refine ⟨?_, fun h => nomatch h⟩
    rintro _ hf coloured' q rfl
    obtain rfl := Except.error.inj hf
    rw [hload]
    rfl
  | ok r =>
    refine ⟨(fun _ h => nomatch h), fun _ => ?_⟩
    obtain ⟨hr, ht⟩ := Rollout.loadValid_eq_ok_iff.1 hload
    refine ⟨r, hr, ?_⟩
    rintro coloured' q rfl f hf
    rw [hload] at hf
    exact GraphRequest.mayFailWith_of_graphRun ht (fun _ _ => Rollout.sound_of_load hr) hf

end Commands

end RolloutPlan
