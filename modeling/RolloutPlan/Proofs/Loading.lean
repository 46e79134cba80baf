import RolloutPlan.Command.Validate
import RolloutPlan.Proofs.PipelineSoundness
import RolloutPlan.Proofs.TopologySoundness

/-!
# Loading a rollout

A pipeline is validated when it is read, so that a rollout has sound pipelines only. Loading along the
forest is loading one path after the other in preorder.

* `Topology.load_eq_ok_iff`, `Pipeline.load_eq_ok_iff`: what has been read.
* `Rollout.loadPipelines`, `Rollout.loadAll_eq`: the paths one after the other.
* `Rollout.load_eq_ok_iff`, `Rollout.sound_of_load`: a rollout, and its pipelines.
* `Rollout.loadValid_eq_ok_iff`: a rollout with a sound topology.
-/

namespace RolloutPlan

set_option autoImplicit false

@[simp] theorem Except.within_eq_ok_iff {α : Type} {c : Context} {x : Except Failure α} {a : α} :
    Except.within c x = .ok a ↔ x = .ok a := by
  cases x <;> simp [Except.within]

section Files
variable {read : Reading} {path : String}

theorem Topology.load_eq_ok_iff {t : Topology} : Topology.load read path = .ok t ↔
    ∃ text, read path = .ok text ∧ Topology.read? text = some t := by
  unfold Topology.load Topology.ofText
  cases read path with
  | error e => simp
  | ok text =>
    rw [Except.within_eq_ok_iff]
    cases ht : Topology.read? text <;> simp [ht]

/-- A pipeline that is read is sound. -/
theorem Pipeline.load_eq_ok_iff {p : Pipeline} : Pipeline.load read path = .ok p ↔
    ∃ text, read path = .ok text ∧ Pipeline.read? text = some p ∧ p.Sound := by
  unfold Pipeline.load
  cases read path with
  | error e => simp
  | ok text =>
    simp only [Except.within_eq_ok_iff, Except.ok.injEq, exists_eq_left', Pipeline.ofText]
    cases Pipeline.read? text with
    | none => simp
    | some q =>
      simp only [Option.some.injEq]
      constructor
      · intro h
        split at h
        · rename_i hvalid
          obtain rfl := Except.ok.inj h
          exact ⟨rfl, q.validate_eq_ok_iff.1 hvalid⟩
        · cases h
      · rintro ⟨rfl, hsound⟩
        rw [q.validate_eq_ok_iff.2 hsound]

end Files

namespace Rollout
variable {read : Reading} {path : String}

/-! ## Loading in preorder -/

/-- Loads pipelines one after the other; of several for a service the last one counts. -/
def loadPipelines (read : Reading) : Pipelines → List (String × String) → Except Failure Pipelines
  | known, [] => .ok known
  | known, (serviceGroup, path) :: l => do
    let p ← Except.within (.loadingPipelineOf serviceGroup) (Pipeline.load read path)
    loadPipelines read (Sorted.put serviceGroup p known) l

theorem loadPipelines_append (known : Pipelines) (l m : List (String × String)) :
    loadPipelines read known (l ++ m) =
      loadPipelines read known l >>= fun known => loadPipelines read known m := by
  induction l generalizing known with
  | nil => rfl
  | cons e l ih =>
    obtain ⟨group, path⟩ := e
    rw [List.cons_append, loadPipelines, loadPipelines, bind_assoc]
    exact bind_congr fun p => ih _

theorem loadOwn_eq (known : Pipelines) (s : Service) :
    loadOwn read path s.serviceGroup known s.pipelinePath =
      loadPipelines read known (ownPath? path s).toList := by
  unfold ownPath?
  cases s.pipelinePath <;> rfl

mutual
theorem loadUnder_eq : ∀ (known : Pipelines) (s : Service), loadUnder read path known s =
    loadPipelines read known (s.preorder.filterMap (ownPath? path))
  | known, ⟨group, purpose, relative, children, metadata⟩ => by
    have hown := @loadOwn_eq read path known
      ⟨group, purpose, relative, children, metadata⟩
    have hcons (l : List Service) (s : Service) :
        (s :: l).filterMap (ownPath? path) = (ownPath? path s).toList ++ l.filterMap (ownPath? path) := by
      rw [List.filterMap_cons]
      cases ownPath? path s <;> rfl
    rw [Service.preorder, hcons, loadPipelines_append, ← hown, loadUnder]
    exact bind_congr fun known => loadAll_eq known children
theorem loadAll_eq : ∀ (known : Pipelines) (l : List Service), loadAll read path known l =
    loadPipelines read known ((Service.preorderAll l).filterMap (ownPath? path))
  | known, [] => rfl
  | known, s :: l => by
    rw [Service.preorderAll, List.filterMap_append, loadPipelines_append, ← loadUnder_eq known s,
      loadAll]
    exact bind_congr fun known => loadAll_eq known l
end

/-! ## What has been loaded -/

theorem sound_of_loadPipelines : ∀ {l : List (String × String)} {known pipelines : Pipelines},
    (∀ e ∈ known, e.2.Sound) → loadPipelines read known l = .ok pipelines →
      ∀ e ∈ pipelines, e.2.Sound
  | [], _, _, hknown, h => by
    obtain rfl := Except.ok.inj h
    exact hknown
  | (group, path) :: l, known, pipelines, hknown, h => by
    rw [loadPipelines, bind_eq_ok] at h
    obtain ⟨p, hp, h⟩ := h
    refine sound_of_loadPipelines (fun e he => ?_) h
    rcases Sorted.eq_or_mem_of_mem_put he with rfl | he
    · obtain ⟨_, _, _, hsound⟩ := Pipeline.load_eq_ok_iff.1 (Except.within_eq_ok_iff.1 hp)
      exact hsound
    · exact hknown e he

theorem load_eq_ok_iff {r : Rollout} : load read path = .ok r ↔
    Topology.load read path = .ok r.topology ∧
      loadPipelines read ∅ (pipelinePaths path r.topology) = .ok r.pipelines := by
  have heq (t : Topology) : loadAll read path ∅ t.services =
      loadPipelines read ∅ (pipelinePaths path t) := loadAll_eq ∅ t.services
  unfold load
  simp only [bind_eq_ok, heq]
  constructor
  · rintro ⟨t, ht, pipelines, hpipelines, h⟩
    obtain rfl := Except.ok.inj h
    exact ⟨ht, hpipelines⟩
  · rintro ⟨ht, hpipelines⟩
    exact ⟨r.topology, ht, r.pipelines, hpipelines, rfl⟩

/-- The pipelines of a rollout that has been loaded are sound. -/
theorem sound_of_load {r : Rollout} (h : load read path = .ok r) {group : String} {p : Pipeline}
    (hp : r.pipelines.lookup group = some p) : p.Sound :=
  sound_of_loadPipelines (by simp) (load_eq_ok_iff.1 h).2 (group, p)
    (SortedMap.lookup_eq_some_iff.1 hp)

theorem loadValid_eq_ok_iff {r : Rollout} :
    loadValid read path = .ok r ↔ load read path = .ok r ∧ r.topology.Sound := by
  unfold loadValid
  rw [bind_eq_ok]
  constructor
  · rintro ⟨r', hr', h⟩
    split at h
    · rename_i hvalid
      obtain rfl := Except.ok.inj h
      exact ⟨hr', r'.topology.validate_eq_ok_iff.1 hvalid⟩
    · cases h
  · rintro ⟨hr, hsound⟩
    refine ⟨r, hr, ?_⟩
    rw [r.topology.validate_eq_ok_iff.2 hsound]
    rfl

end Rollout

end RolloutPlan
