import RolloutPlan.Proofs.Representation

/-!
# Every moment of an assembly

An assembly is followed one change at a time: a service is booked, each of its nodes is pushed, leaves
and roots are remembered, and each of them gains its neighbours. The changes end as the assembly does,
also when it fails.

* `Task`, `Moment`: what is left to do, and an assembly with that. `Moment.advance`: one change.
* `Moment.Reaches`, `Moment.Ends`: a run of changes, and how it ends. `Moment.Ends.bind`: one run after
  another.
* `Moment.ends_record`, `Moment.ends_link`, `Moment.ends_addService`, `Moment.ends_addEntrypoints`: the
  runs of the parts of an assembly.
* `GraphSource.ends_assembly`: the run of a whole assembly.
-/

namespace RolloutPlan

set_option autoImplicit false

/-- The two sides of a node. -/
inductive Side where
  | parents
  | children

namespace Node

/-- A node with more neighbours on one side. -/
def extend : Side → List Identifier → Node → Node
  | .parents, l, n => { n with parents := n.parents ++ l }
  | .children, l, n => { n with children := n.children ++ l }

def neighbours (n : Node) : List Identifier := n.children ++ n.parents

@[simp] theorem identifier_extend (side : Side) (l : List Identifier) (n : Node) :
    (n.extend side l).identifier = n.identifier := by
  cases side <;> rfl

@[simp] theorem mem_neighbours_extend {side : Side} {l : List Identifier} {n : Node} {j : Identifier} :
    j ∈ (n.extend side l).neighbours ↔ j ∈ n.neighbours ∨ j ∈ l := by
  cases side <;> simp only [extend, neighbours, List.mem_append] <;> tauto

end Node

/-! ## Moments -/

/-- What is left to do in an assembly. -/
inductive Task where
  /-- To add the sub-trees that entrypoints select. -/
  | select (t : Topology) (entrypoints : List Entrypoint)
  | add (s : Service)
  /-- To remember the leaves and visit the services under a service. -/
  | descend (children : List Service)
  /-- To visit services that come after some leaves. -/
  | visit (leaves : List Identifier) (services : List Service)
  /-- To find the roots of a service that come after some leaves. -/
  | link (leaves : List Identifier) (serviceGroup : String)
  /-- To give some steps more neighbours on one side. -/
  | extend (side : Side) (neighbours steps : List Identifier)

/-- The leaves and roots that are remembered. -/
def Task.captured : Task → List Identifier
  | .select _ _ => []
  | .add _ => []
  | .descend _ => []
  | .visit leaves _ => leaves
  | .link leaves _ => leaves
  | .extend _ neighbours steps => neighbours ++ steps

/-- An assembly with what is left to do: nodes of the service that was booked last, and tasks. -/
structure Moment where
  assembly : Assembly
  pending : List Node := []
  tasks : List Task

def Moment.captured (m : Moment) : List Identifier := m.tasks.flatMap Task.captured

/-- What one task does before some others. -/
def Task.perform (pipelines : Pipelines) (a : Assembly) (tasks : List Task) :
    Task → Except GraphError Moment
  | .select _ [] => .ok { assembly := a, tasks }
  | .select t (e :: l) =>
    match t.lookup e.identifier with
    | .error cause => .error (.unknownEntrypoint e.identifier cause)
    | .ok s => .ok { assembly := a, tasks := .add s :: .select t l :: tasks }
  | .add s => do
    let (b, nodes) ← a.book pipelines s
    return { assembly := b, pending := nodes, tasks := .descend s.children :: tasks }
  | .descend l => .ok { assembly := a, tasks := .visit a.graph.leaves l :: tasks }
  | .visit _ [] => .ok { assembly := a, tasks }
  | .visit leaves (s :: l) =>
    .ok { assembly := a, tasks := .add s :: .link leaves s.serviceGroup :: .visit leaves l :: tasks }
  | .link leaves serviceGroup =>
    let roots := a.rootsOf serviceGroup
    if roots.isEmpty then .ok { assembly := a, tasks }
    else
      .ok { assembly := a
            tasks := .extend .parents leaves roots :: .extend .children roots leaves :: tasks }
  | .extend _ _ [] => .ok { assembly := a, tasks }
  | .extend side neighbours (i :: l) => do
    let b ← a.modify i (Node.extend side neighbours)
    return { assembly := b, tasks := .extend side neighbours l :: tasks }

namespace Moment

/-- The next moment, or the reason why there is none. A moment with nothing left to do stays. -/
def advance (pipelines : Pipelines) : Moment → Except GraphError Moment
  | ⟨a, n :: l, tasks⟩ => .ok ⟨a.push n, l, tasks⟩
  | ⟨a, [], task :: tasks⟩ => task.perform pipelines a tasks
  | ⟨a, [], []⟩ => .ok ⟨a, [], []⟩

/-- A moment comes after another one in a run. -/
def Reaches (pipelines : Pipelines) : Moment → Moment → Prop :=
  Relation.ReflTransGen fun m m' => m.advance pipelines = .ok m'

/-- From a moment a run ends with some tasks left: with an assembly, or at a moment that has no next
one. -/
def Ends (pipelines : Pipelines) (m : Moment) (tasks : List Task) : Except GraphError Assembly → Prop
  | .ok a => m.Reaches pipelines ⟨a, [], tasks⟩
  | .error e => ∃ m', m.Reaches pipelines m' ∧ m'.advance pipelines = .error e

namespace Ends
variable {pipelines : Pipelines} {m m' : Moment} {tasks tasks' : List Task}
  {x : Except GraphError Assembly}

theorem ok (a : Assembly) (tasks : List Task) : (⟨a, [], tasks⟩ : Moment).Ends pipelines tasks (.ok a) :=
  .refl

theorem error {e : GraphError} (h : m.advance pipelines = .error e) :
    m.Ends pipelines tasks (.error e) :=
  ⟨m, .refl, h⟩

theorem of_reaches (hm : m.Reaches pipelines m') (h : m'.Ends pipelines tasks x) :
    m.Ends pipelines tasks x := by
  cases x with
  | ok a => exact hm.trans h
  | error e =>
    obtain ⟨m'', hm', he⟩ := h
    exact ⟨m'', hm.trans hm', he⟩

theorem head (hm : m.advance pipelines = .ok m') (h : m'.Ends pipelines tasks x) :
    m.Ends pipelines tasks x :=
  h.of_reaches (.single hm)

/-- One run after the other. -/
theorem bind {f : Assembly → Except GraphError Assembly} (h : m.Ends pipelines tasks x)
    (hf : ∀ a, (⟨a, [], tasks⟩ : Moment).Ends pipelines tasks' (f a)) :
    m.Ends pipelines tasks' (x >>= f) := by
  cases x with
  | ok a => exact (hf a).of_reaches h
  | error e => exact h

end Ends

end Moment

/-! ## The run of an assembly -/

namespace Moment
variable {pipelines : Pipelines}

theorem ends_push (tasks : List Task) : ∀ (l : List Node) (a : Assembly),
    (⟨a, l, tasks⟩ : Moment).Ends pipelines tasks (.ok (l.foldl Assembly.push a))
  | [], a => .ok a tasks
  | n :: l, a => .head rfl (ends_push tasks l (a.push n))

theorem ends_record (a : Assembly) (s : Service) (tasks : List Task) :
    (⟨a, [], .add s :: tasks⟩ : Moment).Ends pipelines (.descend s.children :: tasks)
      (a.record pipelines s) := by
  rw [a.record_eq]
  cases hbook : a.book pipelines s with
  | error e =>
    refine .error ?_
    rw [advance, Task.perform, hbook]
    rfl
  | ok booked =>
    refine .head ?_ (ends_push (.descend s.children :: tasks) booked.2 booked.1)
    rw [advance, Task.perform, hbook]
    rfl

theorem ends_extend (side : Side) (l : List Identifier) (tasks : List Task) :
    ∀ (steps : List Identifier) (a : Assembly),
      (⟨a, [], .extend side l steps :: tasks⟩ : Moment).Ends pipelines tasks
        (Assembly.modifyAll (Node.extend side l) a steps)
  | [], a => .head rfl (.ok a tasks)
  | i :: steps, a => by
    rw [Assembly.modifyAll]
    cases hmodify : a.modify i (Node.extend side l) with
    | error e =>
      refine .error ?_
      rw [advance, Task.perform, hmodify]
      rfl
    | ok b =>
      refine .head ?_ (ends_extend side l tasks steps b)
      rw [advance, Task.perform, hmodify]
      rfl

theorem ends_link (a : Assembly) (leaves : List Identifier) (serviceGroup : String)
    (tasks : List Task) :
    (⟨a, [], .link leaves serviceGroup :: tasks⟩ : Moment).Ends pipelines tasks
      (a.link leaves (a.rootsOf serviceGroup)) := by
  have hadvance : (⟨a, [], .link leaves serviceGroup :: tasks⟩ : Moment).advance pipelines =
      (Task.link leaves serviceGroup).perform pipelines a tasks := rfl
  rw [Task.perform] at hadvance
  unfold Assembly.link
  split_ifs with hroots
  · simp only [hroots, if_true] at hadvance
    exact .head hadvance (.ok a tasks)
  · simp only [hroots] at hadvance
    exact .head hadvance ((ends_extend .parents leaves _ (a.rootsOf serviceGroup) a).bind
      fun b => ends_extend .children (a.rootsOf serviceGroup) tasks leaves b)

mutual
/-- A sub-tree is added as a run adds it. -/
theorem ends_addService : ∀ (s : Service) (a : Assembly) (tasks : List Task),
    (⟨a, [], .add s :: tasks⟩ : Moment).Ends pipelines tasks (a.addService pipelines s)
  | ⟨group, purpose, path, children, metadata⟩, a, tasks => by
    rw [Assembly.addService]
    -- The leaves are read off once the service is recorded, before anything under it is added.
    refine (ends_record a _ tasks).bind fun b => ?_
    exact .head rfl (ends_addChildren children b.graph.leaves b tasks)
/-- The leaves stay remembered until the last of the services under a service has been linked. -/
theorem ends_addChildren : ∀ (l : List Service) (leaves : List Identifier) (a : Assembly)
    (tasks : List Task), (⟨a, [], .visit leaves l :: tasks⟩ : Moment).Ends pipelines tasks
      (a.addChildren pipelines leaves l)
  | [], leaves, a, tasks => .head rfl (.ok a tasks)
  | s :: l, leaves, a, tasks => by
    rw [Assembly.addChildren]
    refine .head rfl ((ends_addService s a _).bind fun b => ?_)
    refine (ends_link b leaves s.serviceGroup _).bind fun b' => ?_
    exact ends_addChildren l leaves b' tasks
end

theorem ends_addEntrypoints (t : Topology) (tasks : List Task) :
    ∀ (l : List Entrypoint) (a : Assembly),
      (⟨a, [], .select t l :: tasks⟩ : Moment).Ends pipelines tasks
        (a.addEntrypoints pipelines t l)
  | [], a => .head rfl (.ok a tasks)
  | e :: l, a => by
    rw [Assembly.addEntrypoints]
    cases hs : t.lookup e.identifier with
    | error cause =>
      refine .error ?_
      rw [advance, Task.perform, hs]
    | ok s =>
      refine .head ?_ ((ends_addService s a (.select t l :: tasks)).bind fun b =>
        ends_addEntrypoints t tasks l b)
      rw [advance, Task.perform, hs]

end Moment

namespace GraphSource

/-- The moment before anything is added. -/
def start : GraphSource → Moment
  | pipeline s _ => { assembly := {}, tasks := [.add s.withoutChildren] }
  | entrypoint t e _ => { assembly := {}, tasks := [.select t [e]] }
  | entrypoints t l _ => { assembly := {}, tasks := [.select t l] }

/-- A run from the start ends as the assembly does. -/
theorem ends_assembly : ∀ r : GraphSource, r.start.Ends r.pipelines [] r.assembly
  | pipeline s _ => Moment.ends_addService s.withoutChildren {} []
  | entrypoint t e _ => Moment.ends_addEntrypoints t [] [e] {}
  | entrypoints t l _ => Moment.ends_addEntrypoints t [] l {}

end GraphSource

end RolloutPlan
