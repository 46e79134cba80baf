import RolloutPlan.Proofs.TopologySoundness

/-!
# The report of a validation

A validation goes over the whole forest before it looks at the entrypoints, and it does not look them up:
it asks whether their groups were met. What it reports can be said by looking up all the same.

* `Topology.lookup_eq_ok_iff`: the first service of a group in preorder.
* `Topology.report`, `Topology.reportTexts`: what is to be said of a topology in which some groups are
  repeated, and in which words.
* `Topology.lookup_and_validate_exact`: what is found and what is reported, for every topology.
-/

namespace RolloutPlan

set_option autoImplicit false

namespace Topology
variable {t : Topology} {group : String} {s : Service}

/-! ## Looking up -/

theorem lookup_eq_ok : t.lookup group = .ok s ↔ t.lookup? group = some s := by
  unfold lookup
  cases t.lookup? group <;> simp

theorem lookup_eq_ok_iff : t.lookup group = .ok s ↔ s.serviceGroup = group ∧
    ∃ earlier later, t.preorder = earlier ++ s :: later ∧
      ∀ x ∈ earlier, x.serviceGroup ≠ group := by
  rw [lookup_eq_ok, lookup?_eq, List.find?_eq_some_iff_append]
  simp

theorem exists_lookup_eq_ok_iff :
    (∃ s, t.lookup group = .ok s) ↔ group ∈ t.preorder.map Service.serviceGroup := by
  have hnone : t.lookup? group = none ↔ group ∉ t.preorder.map Service.serviceGroup :=
    lookup?_eq_none_iff
  simp only [lookup_eq_ok]
  rw [← Option.isSome_iff_exists, Option.isSome_iff_ne_none, Ne, hnone, not_not]

/-! ## Reporting -/

/-- What is wrong with an entrypoint: it may be empty, and it may not be found. -/
def entrypointReport (t : Topology) (e : Entrypoint) : List TopologyProblem :=
  (if e.identifier = "" then [.emptyEntrypoint] else []) ++
    match t.lookup e.identifier with
    | .ok _ => []
    | .error _ => [.unknownEntrypoint e.identifier]

/-- What is wrong with a topology in which some groups are repeated. -/
def report (t : Topology) (repeated : List String) : List TopologyProblem :=
  (if repeated = [] then [] else [.duplicateGroups repeated]) ++
    t.entrypoints.flatMap t.entrypointReport

/-- What is said about an entrypoint. -/
def entrypointTexts (t : Topology) (e : Entrypoint) : List String :=
  (if e.identifier = "" then ["entrypoint identifier cannot be empty"] else []) ++
    match t.lookup e.identifier with
    | .ok _ => []
    | .error _ => ["entrypoint " ++ e.identifier ++ " was not found in the dependency tree"]

/-- What is said about a topology in which some groups are repeated. -/
def reportTexts (t : Topology) (repeated : List String) : List String :=
  (if repeated = [] then []
    else ["the following pipelines had duplicate entries: [" ++ " ".intercalate repeated ++ "]"]) ++
    t.entrypoints.flatMap t.entrypointTexts

theorem map_message_entrypointReport (e : Entrypoint) :
    (t.entrypointReport e).map TopologyProblem.message = t.entrypointTexts e := by
  have hempty : (if e.identifier = "" then [TopologyProblem.emptyEntrypoint] else []).map
      TopologyProblem.message =
        if e.identifier = "" then ["entrypoint identifier cannot be empty"] else [] := by
    split_ifs <;> rfl
  rw [entrypointReport, entrypointTexts, List.map_append, hempty]
  cases t.lookup e.identifier <;> rfl

theorem map_message_report (repeated : List String) :
    (t.report repeated).map TopologyProblem.message = t.reportTexts repeated := by
  have hrepeated : (if repeated = [] then [] else [TopologyProblem.duplicateGroups repeated]).map
      TopologyProblem.message = if repeated = [] then []
        else ["the following pipelines had duplicate entries: [" ++ " ".intercalate repeated ++ "]"] := by
    split_ifs <;> rfl
  rw [report, reportTexts, List.map_append, hrepeated, List.map_flatMap]
  simp only [map_message_entrypointReport]

theorem entrypointProblems_eq {c : GroupCensus}
    (hc : c.Counts (t.preorder.map Service.serviceGroup)) (e : Entrypoint) :
    entrypointProblems c e = t.entrypointReport e := by
  have hfound : e.identifier ∈ c.seen ↔ ∃ s, t.lookup e.identifier = .ok s := by
    rw [hc.seen, exists_lookup_eq_ok_iff]
  unfold entrypointProblems entrypointReport
  cases hlookup : t.lookup e.identifier with
  | error _ =>
    have hunseen : e.identifier ∉ c.seen := by simp [hfound, hlookup]
    simp [hunseen]
  | ok _ =>
    have hseen : e.identifier ∈ c.seen := by simp [hfound, hlookup]
    simp [hseen]

theorem problems_eq (t : Topology) :
    t.problems = t.report (GroupCensus.empty.walkAll t.services).repeated := by
  have hcensus := GroupCensus.counts_walkAll t.services
  have hentrypoints : t.entrypoints.flatMap
      (entrypointProblems (GroupCensus.empty.walkAll t.services)) =
        t.entrypoints.flatMap t.entrypointReport := by
    have heq : entrypointProblems (GroupCensus.empty.walkAll t.services) = t.entrypointReport :=
      funext fun e => entrypointProblems_eq hcensus e
    rw [heq]
  rw [report, ← hentrypoints]
  rfl

theorem validate_eq_error_iff {e : InvalidTopology} :
    t.validate = .error e ↔ e.problems = t.problems ∧ e.problems ≠ [] := by
  obtain ⟨problems⟩ := e
  unfold validate
  by_cases hsound : t.problems = []
  · rw [if_pos hsound, hsound]
    simp
  · rw [if_neg hsound, Except.error.injEq, InvalidTopology.mk.injEq, eq_comm]
    constructor
    · rintro rfl
      exact ⟨rfl, hsound⟩
    · rintro ⟨heq, -⟩
      exact heq

/-- Looking up finds the first service of a group, and fails with the group where there is none. A
validation passes when no group is repeated and every entrypoint has a name that is found; otherwise it
reports the repeated groups, and then every entrypoint that is empty or not found, each problem in its own
words. -/
theorem lookup_and_validate_exact (t : Topology) :
    (∀ group s, t.lookup group = .ok s ↔ s.serviceGroup = group ∧
      ∃ earlier later, t.preorder = earlier ++ s :: later ∧
        ∀ x ∈ earlier, x.serviceGroup ≠ group) ∧
    (∀ group e, t.lookup group = .error e ↔
      e.serviceGroup = group ∧ ∀ s ∈ t.preorder, s.serviceGroup ≠ group) ∧
    (t.validate = .ok () ↔ (t.preorder.map Service.serviceGroup).Nodup ∧
      ∀ e ∈ t.entrypoints, e.identifier ≠ "" ∧ ∃ s, t.lookup e.identifier = .ok s) ∧
    ∃ repeated : List String, repeated.Pairwise (· < ·) ∧
      (∀ g, g ∈ repeated ↔ 2 ≤ (t.preorder.map Service.serviceGroup).count g) ∧
      (∀ e, t.validate = .error e ↔ e.problems = t.report repeated ∧ e.problems ≠ []) ∧
      ∀ e, t.validate = .error e →
        e.problems.map TopologyProblem.message = t.reportTexts repeated := by
  refine ⟨fun group s => lookup_eq_ok_iff, ?_, ?_, ?_⟩
  · intro group e
    obtain ⟨found⟩ := e
    rw [lookup_eq_error_iff]
    simp
  · rw [validate_eq_ok_iff]
    simp only [exists_lookup_eq_ok_iff]
    constructor
    · intro h
      exact ⟨h.distinct, fun e he => ⟨h.entrypoint_ne e he, h.found e he⟩⟩
    · rintro ⟨hdistinct, hentrypoints⟩
      exact ⟨hdistinct, fun e he => (hentrypoints e he).1, fun e he => (hentrypoints e he).2⟩
  · have hcensus := GroupCensus.counts_walkAll t.services
    have herror (e : InvalidTopology) : t.validate = .error e ↔
        e.problems = t.report (GroupCensus.empty.walkAll t.services).repeated ∧ e.problems ≠ [] := by
      rw [validate_eq_error_iff, problems_eq]
    refine ⟨_, hcensus.pairwise_repeated, hcensus.repeated, herror, fun e he => ?_⟩
    rw [((herror e).1 he).1, map_message_report]

/-- A group that stands three times is reported once, and an empty entrypoint is also not found. -/
example : Topology.validate {
      services := [
        { serviceGroup := "b", children := [{ serviceGroup := "a" }, { serviceGroup := "a" }] },
        { serviceGroup := "a", children := [{ serviceGroup := "b" }] }]
      entrypoints := [{ identifier := "" }, { identifier := "a" }, { identifier := "c" }] } =
    .error ⟨[.duplicateGroups ["a", "b"], .emptyEntrypoint, .unknownEntrypoint "",
      .unknownEntrypoint "c"]⟩ := by
  decide

end Topology

end RolloutPlan
