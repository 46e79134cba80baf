import Mathlib.Data.List.Nodup
import RolloutPlan.Topology.Basic

/-!
# The order in which services are visited

A sub-tree is visited in preorder, and a visit remembers the services above it. What the order of the
visits says about the tree is read off this alone.

* `Visit`, `Service.visits`, `Topology.visits`: the visits of a sub-tree, and those of the sub-trees
  that entrypoints select one after the other. `Service.visits_services` says that they are in preorder.
* `Service.joins`: the visits that are left upwards, in the order in which they are left.
* `position`: the number of a service group among the visits.
* `Preordered`: every visit stands under the end of the branch that was visited before it. Then the
  services above a visit come before it (`Preordered.position_lt`), and a service that is above a visit
  is above all visits in between (`Preordered.mem_above_of_between`).
-/

namespace RolloutPlan

set_option autoImplicit false

/-- A service with the service groups above it, the nearest first. -/
structure Visit where
  service : Service
  above : List String

namespace Visit

def group (v : Visit) : String := v.service.serviceGroup

/-- The service group that the service was visited from. -/
def parent? (v : Visit) : Option String := v.above.head?

end Visit

/-! ## Visits of a tree -/

namespace Service

mutual
/-- Visits a service that stands under some others, and all under it. -/
def visits (above : List String) : Service → List Visit
  | ⟨group, purpose, path, children, metadata⟩ =>
    ⟨⟨group, purpose, path, children, metadata⟩, above⟩ :: visitsAll (group :: above) children
def visitsAll (above : List String) : List Service → List Visit
  | [] => []
  | s :: l => s.visits above ++ visitsAll above l
end

mutual
/-- The visits under a service, each after those under it. -/
def joins (above : List String) : Service → List Visit
  | ⟨group, _, _, children, _⟩ => joinsAll (group :: above) children
def joinsAll (above : List String) : List Service → List Visit
  | [] => []
  | s :: l => s.joins above ++ ⟨s, above⟩ :: joinsAll above l
end

theorem visits_eq (above : List String) (s : Service) :
    s.visits above = ⟨s, above⟩ :: visitsAll (s.serviceGroup :: above) s.children := by
  cases s
  rw [visits]

mutual
/-- The services of the visits are the sub-tree in preorder. -/
@[simp] theorem visits_services (above : List String) :
    ∀ s : Service, (s.visits above).map Visit.service = s.preorder
  | ⟨group, purpose, path, children, metadata⟩ => by
    rw [visits, preorder, List.map_cons, visitsAll_services (group :: above) children]
theorem visitsAll_services (above : List String) :
    ∀ l : List Service, (visitsAll above l).map Visit.service = preorderAll l
  | [] => rfl
  | s :: l => by
    rw [visitsAll, preorderAll, List.map_append, visits_services above s, visitsAll_services above l]
end

end Service

namespace Topology

/-- The visits of the sub-trees that entrypoints select one after the other. -/
def visits (t : Topology) (entrypoints : List Entrypoint) : List Visit :=
  entrypoints.flatMap fun e => ((t.lookup? e.identifier).map (Service.visits [])).getD []

/-- The services of these sub-trees, each before those under it. -/
def selected (t : Topology) (entrypoints : List Entrypoint) : List Service :=
  entrypoints.flatMap fun e => ((t.lookup? e.identifier).map Service.preorder).getD []

@[simp] theorem visits_services (t : Topology) (entrypoints : List Entrypoint) :
    (t.visits entrypoints).map Visit.service = t.selected entrypoints := by
  unfold visits selected
  rw [List.map_flatMap]
  congr 1
  funext e
  cases t.lookup? e.identifier with
  | none => rfl
  | some s => exact s.visits_services []

/-- The visits of these sub-trees without their roots, each after those under it. -/
def joins (t : Topology) (entrypoints : List Entrypoint) : List Visit :=
  entrypoints.flatMap fun e => ((t.lookup? e.identifier).map (Service.joins [])).getD []

end Topology

/-! ## Positions -/

/-- The number of a service group among some visits. -/
def position (V : List Visit) (group : String) : Nat := (V.map Visit.group).idxOf group

theorem position_append {V : List Visit} {group : String} (h : group ∈ V.map Visit.group)
    (W : List Visit) : position (V ++ W) group = position V group := by
  unfold position
  rw [List.map_append, List.idxOf_append_of_mem h]

theorem position_lt_length {V : List Visit} {group : String} :
    position V group < V.length ↔ group ∈ V.map Visit.group := by
  unfold position
  rw [← List.length_map (f := Visit.group), List.idxOf_lt_length_iff]

theorem position_snoc_self {V : List Visit} {v : Visit} (h : v.group ∉ V.map Visit.group) :
    position (V ++ [v]) v.group = V.length := by
  unfold position
  rw [List.map_append, List.idxOf_append_of_notMem h]
  simp

theorem length_le_position {V : List Visit} {group : String} (h : group ∉ V.map Visit.group)
    (W : List Visit) : V.length ≤ position (V ++ W) group := by
  unfold position
  rw [List.map_append, List.idxOf_append_of_notMem h, List.length_map]
  omega

theorem position_injOn {V : List Visit} {g h : String} (hg : g ∈ V.map Visit.group)
    (heq : position V g = position V h) : g = h :=
  (List.idxOf_inj hg).1 heq

/-! ## Preorder -/

/-- The end of the branch that was visited last, with the service groups above it. -/
def openAfter (V : List Visit) : List String :=
  match V.getLast? with
  | none => []
  | some v => v.group :: v.above

@[simp]
theorem openAfter_snoc (V : List Visit) (v : Visit) : openAfter (V ++ [v]) = v.group :: v.above := by
  unfold openAfter
  rw [List.getLast?_concat]

/-- No service group is visited twice, and every visit stands under the end of the branch that was
visited before it. -/
inductive Preordered : List Visit → Prop
  | nil : Preordered []
  | snoc {V : List Visit} {v : Visit} : Preordered V → v.group ∉ V.map Visit.group →
      v.above <:+ openAfter V → Preordered (V ++ [v])

namespace Preordered

theorem nodup {V : List Visit} (h : Preordered V) : (V.map Visit.group).Nodup := by
  induction h with
  | nil => exact .nil
  | snoc _ hv _ ih =>
    rw [List.map_append]
    exact List.nodup_append.2 ⟨ih, List.nodup_singleton _, by simpa using hv⟩

theorem of_snoc {V : List Visit} {v : Visit} (h : Preordered (V ++ [v])) :
    Preordered V ∧ v.group ∉ V.map Visit.group ∧ v.above <:+ openAfter V := by
  generalize hU : V ++ [v] = U at h
  cases h with
  | nil => simp at hU
  | snoc hV hv hopen =>
    obtain ⟨rfl, hlast⟩ := List.append_inj' hU rfl
    obtain rfl := List.singleton_inj.1 hlast
    exact ⟨hV, hv, hopen⟩

theorem eq_of_group_eq {V : List Visit} (h : Preordered V) {u v : Visit} (hu : u ∈ V) (hv : v ∈ V)
    (huv : u.group = v.group) : u = v :=
  List.inj_on_of_nodup_map h.nodup hu hv huv

theorem position_le_last {V : List Visit} {u v : Visit} (h : Preordered (V ++ [v]))
    (hu : u ∈ V ++ [v]) : position (V ++ [v]) u.group ≤ position (V ++ [v]) v.group := by
  obtain ⟨_, hv, _⟩ := h.of_snoc
  have hlt := position_lt_length.2 (List.mem_map_of_mem (f := Visit.group) hu)
  rw [List.length_append, List.length_singleton] at hlt
  rw [position_snoc_self hv]
  omega

theorem exists_suffix_of_mem {p : String} {l : List String} (h : p ∈ l) :
    ∃ rest, p :: rest <:+ l := by
  obtain ⟨first, rest, hsplit⟩ := List.append_of_mem h
  exact ⟨rest, first, hsplit.symm⟩

/-- What a visit after the last one can stand under. -/
theorem exists_last {V : List Visit} {p : String} {rest : List String}
    (h : p :: rest <:+ openAfter V) : ∃ V₀ u, V = V₀ ++ [u] ∧
      (u.group = p ∧ u.above = rest ∨ p :: rest <:+ u.above) := by
  rcases List.eq_nil_or_concat V with rfl | ⟨V₀, u, rfl⟩
  · have := h.length_le
    simp [openAfter] at this
  · rw [List.concat_eq_append, openAfter_snoc, List.suffix_cons_iff] at h
    refine ⟨V₀, u, List.concat_eq_append .., h.imp_left ?_⟩
    intro heq
    exact ⟨(List.cons.inj heq).1.symm, (List.cons.inj heq).2.symm⟩

/-- The service groups above a visit were visited, and with them those above them. -/
theorem exists_visit {V : List Visit} (h : Preordered V) {v : Visit} (hv : v ∈ V) {p : String}
    {rest : List String} (hp : p :: rest <:+ v.above) :
    ∃ u ∈ V, u.group = p ∧ u.above = rest ∧ position V p < position V v.group := by
  induction h generalizing v p rest with
  | nil => exact absurd hv List.not_mem_nil
  | @snoc V w hV hw hopen ih =>
    rcases List.mem_append.1 hv with hv | hv
    · obtain ⟨u, hu, rfl, hrest, hlt⟩ := ih hv hp
      refine ⟨u, List.mem_append_left _ hu, rfl, hrest, ?_⟩
      rw [position_append (List.mem_map_of_mem hu), position_append (List.mem_map_of_mem hv)]
      exact hlt
    · obtain rfl := List.mem_singleton.1 hv
      have hbefore : ∀ x ∈ V, position (V ++ [v]) x.group < position (V ++ [v]) v.group := by
        intro x hx
        rw [position_snoc_self hw, position_append (List.mem_map_of_mem hx)]
        exact position_lt_length.2 (List.mem_map_of_mem hx)
      obtain ⟨V₀, u, rfl, hu⟩ := exists_last (hp.trans hopen)
      have hmem : u ∈ V₀ ++ [u] := List.mem_append_right _ (List.mem_singleton_self u)
      rcases hu with ⟨rfl, rfl⟩ | hu
      · exact ⟨u, List.mem_append_left _ hmem, rfl, rfl, hbefore u hmem⟩
      · obtain ⟨x, hx, rfl, hrest, _⟩ := ih hmem hu
        exact ⟨x, List.mem_append_left _ hx, rfl, hrest, hbefore x hx⟩

theorem exists_parent {V : List Visit} (h : Preordered V) {v : Visit} (hv : v ∈ V) {q : String}
    (hq : v.parent? = some q) : ∃ u ∈ V, u.group = q ∧ v.above = u.group :: u.above := by
  obtain ⟨rest, habove⟩ := List.head?_eq_some_iff.1 hq
  obtain ⟨u, hu, rfl, rfl, _⟩ := h.exists_visit hv ⟨[], habove.symm⟩
  exact ⟨u, hu, rfl, habove⟩

theorem position_lt {V : List Visit} (h : Preordered V) {v : Visit} (hv : v ∈ V) {p : String}
    (hp : p ∈ v.above) : p ∈ V.map Visit.group ∧ position V p < position V v.group := by
  obtain ⟨rest, hrest⟩ := exists_suffix_of_mem hp
  obtain ⟨u, hu, rfl, _, hlt⟩ := h.exists_visit hv hrest
  exact ⟨List.mem_map_of_mem hu, hlt⟩

/-- What is above a visit is above every visit in between. -/
theorem mem_above_of_between {V : List Visit} (h : Preordered V) {u v : Visit} (hu : u ∈ V)
    (hv : v ∈ V) {p : String} (hp : p ∈ v.above) (hpu : position V p < position V u.group)
    (huv : position V u.group ≤ position V v.group) : p ∈ u.above := by
  induction h generalizing u v with
  | nil => exact absurd hv List.not_mem_nil
  | @snoc V w hV hw hopen ih =>
    rcases List.mem_append.1 hu with hu' | hu'
    · rw [position_append (List.mem_map_of_mem hu')] at hpu
      have hpV : p ∈ V.map Visit.group := by
        by_contra hpV
        have := position_lt_length.2 (List.mem_map_of_mem (f := Visit.group) hu')
        have := length_le_position hpV [w]
        omega
      rw [position_append hpV] at hpu
      rcases List.mem_append.1 hv with hv' | hv'
      · rw [position_append (List.mem_map_of_mem hu'),
          position_append (List.mem_map_of_mem hv')] at huv
        exact ih hu' hv' hp hpu huv
      · obtain rfl := List.mem_singleton.1 hv'
        -- the visit before the last one is between `u` and it
        obtain ⟨rest, hrest⟩ := exists_suffix_of_mem hp
        obtain ⟨V₀, x, rfl, hx⟩ := exists_last (hrest.trans hopen)
        have hmem : x ∈ V₀ ++ [x] := List.mem_append_right _ (List.mem_singleton_self x)
        have hux := position_le_last hV hu'
        rcases hx with ⟨rfl, _⟩ | hx
        · omega
        · exact ih hu' hmem (hx.subset List.mem_cons_self) hpu hux
    · obtain rfl := List.mem_singleton.1 hu'
      rcases List.mem_append.1 hv with hv' | hv'
      · have := position_lt_length.2 (List.mem_map_of_mem (f := Visit.group) hv')
        rw [position_snoc_self hw, position_append (List.mem_map_of_mem hv')] at huv
        omega
      · obtain rfl := List.mem_singleton.1 hv'
        exact hp

end Preordered

/-! ## Joined visits -/

/-- The visits that have been joined are those under others, but for those on a branch that has not
been left yet. -/
structure JoinedBut (branch : List String) (V W : List Visit) : Prop where
  mem_iff : ∀ w, w ∈ W ↔ w ∈ V ∧ w.above ≠ [] ∧ w.group ∉ branch
  nodup : W.Nodup

namespace JoinedBut
variable {V W : List Visit} {above : List String}

theorem nil : JoinedBut [] [] [] := ⟨by simp, .nil⟩

theorem nodup_groups (h : JoinedBut above V W) (hV : Preordered V) : (W.map Visit.group).Nodup := by
  refine List.Nodup.map_on ?_ h.nodup
  intro u hu w hw
  exact hV.eq_of_group_eq ((h.mem_iff u).1 hu).1 ((h.mem_iff w).1 hw).1

theorem enter {v : Visit} (h : JoinedBut v.above V W) (hv : v.group ∉ V.map Visit.group) :
    JoinedBut (v.group :: v.above) (V ++ [v]) W := by
  refine ⟨?_, h.nodup⟩
  intro w
  rw [h.mem_iff, List.mem_append, List.mem_singleton, List.mem_cons, not_or]
  constructor
  · rintro ⟨hw, habove, hgroup⟩
    refine ⟨.inl hw, habove, ?_, hgroup⟩
    rintro heq
    exact hv (heq ▸ List.mem_map_of_mem hw)
  · rintro ⟨hw | rfl, habove, hne, hgroup⟩
    · exact ⟨hw, habove, hgroup⟩
    · exact absurd rfl hne

theorem leave {v : Visit} (h : JoinedBut (v.group :: v.above) V W) (hV : Preordered V) (hv : v ∈ V)
    (habove : v.above ≠ []) : JoinedBut v.above V (W ++ [v]) := by
  have hvW : v ∉ W := fun hw => ((h.mem_iff v).1 hw).2.2 List.mem_cons_self
  constructor
  · intro w
    rw [List.mem_append, List.mem_singleton, h.mem_iff, List.mem_cons, not_or]
    constructor
    · rintro (⟨hw, hne, _, hgroup⟩ | rfl)
      · exact ⟨hw, hne, hgroup⟩
      · exact ⟨hv, habove, fun hself => Nat.lt_irrefl _ (hV.position_lt hv hself).2⟩
    · rintro ⟨hw, hne, hgroup⟩
      by_cases heq : w.group = v.group
      · exact .inr (hV.eq_of_group_eq hw hv heq)
      · exact .inl ⟨hw, hne, heq, hgroup⟩
  · exact List.nodup_append.2 ⟨h.nodup, List.nodup_singleton v, by
      rintro u hu w hw rfl
      exact hvW (List.mem_singleton.1 hw ▸ hu)⟩

theorem leave_root {v : Visit} (h : JoinedBut [v.group] V W) (hV : Preordered V) (hv : v ∈ V)
    (habove : v.above = []) : JoinedBut [] V W := by
  refine ⟨?_, h.nodup⟩
  intro w
  rw [h.mem_iff, List.mem_singleton]
  refine and_congr_right fun hw => and_congr_right fun hne => ?_
  simp only [List.not_mem_nil, not_false_eq_true, iff_true]
  intro heq
  rw [hV.eq_of_group_eq hw hv heq] at hne
  exact hne habove

end JoinedBut

end RolloutPlan
