import Mathlib.Data.List.Infix
import Mathlib.Data.List.Nodup
import RolloutPlan.Proofs.Itinerary
import RolloutPlan.Proofs.Sorted
import RolloutPlan.Topology.Validation

/-!
# Sound topologies

Looking up a service and taking a census of the forest both follow the preorder. In a sound topology the
sub-trees of two services are apart, unless one of them stands in the other.

* `Topology.lookup?_eq`: a look-up finds the first service of a group in preorder.
* `GroupCensus.Counts`: a census knows the groups that it has met, and those that it has met again.
* `Topology.Sound`: no group stands twice, and entrypoints name groups of the forest.
  `Topology.validate_eq_ok_iff`: these are the topologies that pass the validation.
* `Service.infix_preorder`, `mem_preorder_of_common`: sub-trees, and sub-trees that have a service in
  common.
-/

namespace RolloutPlan

set_option autoImplicit false

/-! ## Looking up a service -/

namespace Service

mutual
theorem find?_eq (group : String) : ∀ s : Service,
    s.find? group = s.preorder.find? (·.serviceGroup = group)
  | ⟨g, purpose, path, children, metadata⟩ => by
    rw [find?, preorder, List.find?_cons, findAny?_eq group children]
    by_cases hg : g = group <;> simp [hg]
theorem findAny?_eq (group : String) : ∀ l : List Service,
    findAny? group l = (preorderAll l).find? (·.serviceGroup = group)
  | [] => rfl
  | s :: l => by
    rw [findAny?, preorderAll, List.find?_append, find?_eq group s, findAny?_eq group l]
end

end Service

namespace Topology
variable {t : Topology} {group : String} {s : Service}

theorem lookup?_eq (t : Topology) (group : String) :
    t.lookup? group = t.preorder.find? (·.serviceGroup = group) :=
  Service.findAny?_eq group t.services

theorem mem_preorder_of_lookup? (h : t.lookup? group = some s) : s ∈ t.preorder := by
  rw [lookup?_eq] at h
  exact List.mem_of_find?_eq_some h

theorem lookup?_eq_none_iff :
    t.lookup? group = none ↔ group ∉ t.preorder.map Service.serviceGroup := by
  simp [lookup?_eq]

theorem lookup_eq_error_iff {e : UnknownService} : t.lookup group = .error e ↔
    e = ⟨group⟩ ∧ group ∉ t.preorder.map Service.serviceGroup := by
  rw [← lookup?_eq_none_iff, lookup]
  cases t.lookup? group <;> simp [eq_comm]

end Topology

/-! ## The census -/

namespace GroupCensus

mutual
theorem walk_eq : ∀ (c : GroupCensus) (s : Service),
    c.walk s = (s.preorder.map Service.serviceGroup).foldl add c
  | c, ⟨group, purpose, path, children, metadata⟩ => by
    rw [walk, Service.preorder, List.map_cons, List.foldl_cons, walkAll_eq (c.add group) children]
theorem walkAll_eq : ∀ (c : GroupCensus) (l : List Service),
    c.walkAll l = ((Service.preorderAll l).map Service.serviceGroup).foldl add c
  | _, [] => rfl
  | c, s :: l => by
    rw [walkAll, Service.preorderAll, List.map_append, List.foldl_append, walk_eq c s,
      walkAll_eq _ l]
end

/-- A census has met some groups, and some of them again. -/
structure Counts (c : GroupCensus) (groups : List String) : Prop where
  seen : ∀ g, g ∈ c.seen ↔ g ∈ groups
  repeated : ∀ g, g ∈ c.repeated ↔ 2 ≤ groups.count g
  pairwise_repeated : c.repeated.Pairwise (· < ·)

theorem Counts.add {c : GroupCensus} {groups : List String} (h : c.Counts groups) (group : String) :
    (c.add group).Counts (groups ++ [group]) := by
  have hcount : ∀ g, (groups ++ [group]).count g = groups.count g + if g = group then 1 else 0 := by
    intro g
    rw [List.count_append, List.count_singleton]
    by_cases hg : g = group
    · simp [hg]
    · simp [hg, Ne.symm hg]
  have hseen : group ∈ c.seen ↔ 1 ≤ groups.count group := by
    rw [h.seen, ← List.count_pos_iff, Nat.succ_le_iff]
  unfold GroupCensus.add
  simp only [List.contains_iff_mem]
  split_ifs with hgroup
  · constructor
    case seen =>
      intro g
      rw [h.seen, List.mem_append, List.mem_singleton]
      constructor
      · exact .inl
      · rintro (hg | rfl)
        · exact hg
        · exact (h.seen g).1 hgroup
    case repeated =>
      intro g
      rw [Sorted.mem_insert, h.repeated, hcount]
      by_cases hg : g = group
      · subst hg
        have := hseen.1 hgroup
        simp only [true_or, if_true, true_iff]
        omega
      · simp [hg]
    case pairwise_repeated => exact Sorted.pairwise_insert h.pairwise_repeated
  · constructor
    case seen =>
      intro g
      rw [List.mem_cons, h.seen, List.mem_append, List.mem_singleton, or_comm]
    case repeated =>
      intro g
      rw [h.repeated, hcount]
      by_cases hg : g = group
      · subst hg
        rw [hseen] at hgroup
        rw [if_pos rfl]
        omega
      · simp [hg]
    case pairwise_repeated => exact h.pairwise_repeated

theorem Counts.foldl : ∀ {l groups : List String} {c : GroupCensus}, c.Counts groups →
    (l.foldl GroupCensus.add c).Counts (groups ++ l)
  | [], _, _, h => by simpa using h
  | g :: l, _, _, h => by
    rw [List.append_cons]
    exact (h.add g).foldl

/-- The census of a forest. -/
theorem counts_walkAll (l : List Service) :
    (empty.walkAll l).Counts ((Service.preorderAll l).map Service.serviceGroup) := by
  have hempty : empty.Counts [] := ⟨by simp [empty], by simp [empty], .nil⟩
  rw [walkAll_eq]
  exact hempty.foldl

theorem Counts.repeated_eq_nil_iff {c : GroupCensus} {groups : List String} (h : c.Counts groups) :
    c.repeated = [] ↔ groups.Nodup := by
  rw [List.nodup_iff_count_le_one, List.eq_nil_iff_forall_not_mem]
  refine forall_congr' fun g => ?_
  rw [h.repeated]
  omega

end GroupCensus

/-! ## Sound topologies -/

namespace Topology

/-- No group stands twice in the forest, and entrypoints name groups of the forest. -/
structure Sound (t : Topology) : Prop where
  distinct : (t.preorder.map Service.serviceGroup).Nodup
  entrypoint_ne : ∀ e ∈ t.entrypoints, e.identifier ≠ ""
  found : ∀ e ∈ t.entrypoints, e.identifier ∈ t.preorder.map Service.serviceGroup

theorem problems_eq_nil_iff (t : Topology) : t.problems = [] ↔ t.Sound := by
  have hcensus := GroupCensus.counts_walkAll t.services
  have hentrypoints : t.entrypoints.flatMap
      (entrypointProblems (GroupCensus.empty.walkAll t.services)) = [] ↔
        ∀ e ∈ t.entrypoints, e.identifier ≠ "" ∧
          e.identifier ∈ t.preorder.map Service.serviceGroup := by
    simp [entrypointProblems, hcensus.seen, preorder]
  have hrepeated : (if (GroupCensus.empty.walkAll t.services).repeated = [] then [] else
      [TopologyProblem.duplicateGroups (GroupCensus.empty.walkAll t.services).repeated]) = [] ↔
        (t.preorder.map Service.serviceGroup).Nodup := by
    rw [preorder, ← hcensus.repeated_eq_nil_iff]
    split_ifs with h <;> simp [h]
  simp only [problems, List.append_eq_nil_iff, hentrypoints, hrepeated]
  constructor
  · rintro ⟨hdistinct, hall⟩
    exact ⟨hdistinct, fun e he => (hall e he).1, fun e he => (hall e he).2⟩
  · rintro ⟨hdistinct, hne, hfound⟩
    exact ⟨hdistinct, fun e he => ⟨hne e he, hfound e he⟩⟩

theorem validate_eq_ok_iff (t : Topology) : t.validate = .ok () ↔ t.Sound := by
  rw [← problems_eq_nil_iff, validate]
  split_ifs with h <;> simp [h]

end Topology

/-! ## Sub-trees -/

namespace Service

mutual
/-- A sub-tree stands in one piece in the preorder. -/
theorem infix_preorder {x : Service} : ∀ {s : Service}, x ∈ s.preorder → x.preorder <:+: s.preorder
  | ⟨group, purpose, path, children, metadata⟩, h => by
    rw [preorder, List.mem_cons] at h
    rcases h with rfl | h
    · exact List.infix_rfl
    · rw [preorder]
      exact (infix_preorderAll h).trans (List.suffix_cons _ _).isInfix
theorem infix_preorderAll {x : Service} : ∀ {l : List Service}, x ∈ preorderAll l →
    x.preorder <:+: preorderAll l
  | s :: l, h => by
    rw [preorderAll, List.mem_append] at h
    rw [preorderAll]
    rcases h with h | h
    · exact (infix_preorder h).trans (List.prefix_append _ _).isInfix
    · exact (infix_preorderAll h).trans (List.suffix_append _ _).isInfix
end

end Service

/-- A piece that begins after another one and has an element in common with it begins in it. -/
theorem mem_of_later_piece {α : Type} {p q r n k : List α} {b x : α} (hp : (p ++ q).Nodup)
    (heq : p ++ q = r ++ (b :: n ++ k)) (hx : x ∈ p) (hx' : x ∈ b :: n) : b ∈ p := by
  have hq : x ∉ q := fun hq => List.disjoint_of_nodup_append hp hx hq
  have hk : x ∈ b :: n ++ k := List.mem_append_left _ hx'
  rcases List.append_eq_append_iff.1 heq with ⟨c, -, rfl⟩ | ⟨c, rfl, hc⟩
  · exact absurd (List.mem_append_right _ hk) hq
  · cases c with
    | nil =>
      rw [hc] at hk
      exact absurd hk hq
    | cons d c =>
      obtain ⟨rfl, -⟩ := List.cons.inj hc
      simp

/-- Of two pieces of a list that have an element in common, one holds the beginning of the other. -/
theorem mem_of_common_piece {α : Type} {l : List α} (hl : l.Nodup) {a b x : α} {m n : List α}
    (ha : a :: m <:+: l) (hb : b :: n <:+: l) (hx : x ∈ a :: m) (hx' : x ∈ b :: n) :
    b ∈ a :: m ∨ a ∈ b :: n := by
  obtain ⟨l₁, l₂, rfl⟩ := ha
  obtain ⟨k₁, k₂, heq⟩ := hb
  rw [List.append_assoc, List.append_assoc] at heq
  have hk : (b :: n ++ k₂).Nodup := by
    rw [List.append_assoc, ← heq] at hl
    exact hl.of_append_right
  rw [List.append_assoc] at hl
  rcases List.append_eq_append_iff.1 heq with ⟨c, -, hc⟩ | ⟨c, -, hc⟩
  · exact .inr (mem_of_later_piece hk hc hx' hx)
  · exact .inl (mem_of_later_piece hl.of_append_right hc hx hx')

namespace Topology

/-- Two sub-trees of a forest without repetitions that have a service in common contain each other. -/
theorem mem_preorder_of_common {t : Topology} (ht : (t.preorder.map Service.serviceGroup).Nodup)
    {s s' x y : Service} (hs : s ∈ t.preorder) (hs' : s' ∈ t.preorder) (hx : x ∈ s.preorder)
    (hy : y ∈ s'.preorder) (hxy : x.serviceGroup = y.serviceGroup) :
    s' ∈ s.preorder ∨ s ∈ s'.preorder := by
  have hpiece := Service.infix_preorderAll hs
  have hpiece' := Service.infix_preorderAll hs'
  obtain rfl : x = y := List.inj_on_of_nodup_map ht (hpiece.subset hx) (hpiece'.subset hy) hxy
  rw [s.preorder_eq_cons] at hpiece hx ⊢
  rw [s'.preorder_eq_cons] at hpiece' hy ⊢
  exact mem_of_common_piece ht.of_map hpiece hpiece' hx hy

end Topology

end RolloutPlan
