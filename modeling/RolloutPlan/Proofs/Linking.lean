import Std.Data.HashMap.Lemmas
import RolloutPlan.Graph.Assembly
import RolloutPlan.Proofs.Layout

/-!
# Nodes under construction

The nodes of an assembly are changed at places that an index gives. As long as the index has the place
of every node, changing the nodes of some steps is a change of all nodes with these steps.

* `Assembly.Indexed`: the index has the place of every node and nothing else.
* `Assembly.indexed_push`, `Assembly.foldl_push`: new nodes stand at the end.
* `Assembly.modify_eq`, `Assembly.modifyAll_eq`: indexed nodes are found and changed.
* `Assembly.link_eq`: leaves and roots that have nodes are joined by a seam.
-/

namespace RolloutPlan

set_option autoImplicit false

namespace Assembly

/-- The steps that have nodes, in the order of these. -/
def identifiers (a : Assembly) : List Identifier := a.graph.nodes.map Node.identifier

/-- The assembly with other nodes. -/
def withNodes (a : Assembly) (nodes : List Node) : Assembly :=
  { a with graph := { a.graph with nodes } }

@[simp] theorem nodes_withNodes (a : Assembly) (nodes : List Node) :
    (a.withNodes nodes).graph.nodes = nodes := rfl

@[simp] theorem identifiers_withNodes (a : Assembly) (nodes : List Node) :
    (a.withNodes nodes).identifiers = nodes.map Node.identifier := rfl

@[simp] theorem withNodes_self (a : Assembly) : a.withNodes a.graph.nodes = a := rfl

@[simp] theorem withNodes_withNodes (a : Assembly) (nodes nodes' : List Node) :
    (a.withNodes nodes).withNodes nodes' = a.withNodes nodes' := rfl

/-- The index has the place of every node and nothing else. -/
def Indexed (a : Assembly) : Prop :=
  ∀ (i : Identifier) (k : Nat), a.index[i]? = some k ↔ a.identifiers[k]? = some i

theorem indexed_empty : Indexed {} := by
  intro i k
  simp [identifiers]

theorem Indexed.nodup {a : Assembly} (h : a.Indexed) : a.identifiers.Nodup := by
  rw [List.nodup_iff_getElem?_ne_getElem?]
  intro j k hjk hk heq
  have hi := List.getElem?_eq_getElem hk
  have hj := (h _ j).2 (heq.trans hi)
  rw [(h _ k).2 hi] at hj
  exact Nat.lt_irrefl _ (Option.some.inj hj ▸ hjk)

/-! ## Adding nodes -/

@[simp] theorem identifiers_push (a : Assembly) (n : Node) :
    (a.push n).identifiers = a.identifiers ++ [n.identifier] := by
  simp [identifiers]

/-- A new element is at the end of a list, and the others are where they were. -/
theorem getElem?_concat_eq_some_iff {l : List Identifier} {x i : Identifier} (hx : x ∉ l) {k : Nat} :
    (l ++ [x])[k]? = some i ↔ if x = i then l.length = k else l[k]? = some i := by
  rcases Nat.lt_trichotomy k l.length with hlt | rfl | hgt
  · rw [List.getElem?_append_left hlt]
    by_cases hi : x = i
    · subst hi
      have hk : l[k]? ≠ some x := fun hk => hx (List.mem_of_getElem? hk)
      have hne : l.length ≠ k := by omega
      simp [hk, hne]
    · rw [if_neg hi]
  · rw [List.getElem?_concat_length, List.getElem?_eq_none (Nat.le_refl _)]
    by_cases hi : x = i <;> simp [hi]
  · have hlast : (l ++ [x]).length ≤ k := by
      rw [List.length_append, List.length_singleton]
      omega
    have hne : l.length ≠ k := by omega
    rw [List.getElem?_eq_none hlast, List.getElem?_eq_none (by omega)]
    by_cases hi : x = i <;> simp [hi, hne]

theorem indexed_push {a : Assembly} (h : a.Indexed) {n : Node} (hn : n.identifier ∉ a.identifiers) :
    (a.push n).Indexed := by
  intro i k
  have hlength : a.graph.nodes.length = a.identifiers.length := by
    rw [identifiers, List.length_map]
  rw [identifiers_push, getElem?_concat_eq_some_iff hn, ← h i k, ← hlength, index_push,
    Std.HashMap.getElem?_insert]
  by_cases hi : n.identifier = i <;> simp [hi]

theorem foldl_push : ∀ (l : List Node) {a : Assembly}, a.Indexed →
    (a.identifiers ++ l.map Node.identifier).Nodup →
      (l.foldl push a).Indexed ∧
        (l.foldl push a).graph = { a.graph with nodes := a.graph.nodes ++ l }
  | [], a, h, _ => ⟨h, by simp⟩
  | n :: l, a, h, hl => by
    have hn : n.identifier ∉ a.identifiers := by
      rw [List.nodup_append] at hl
      intro hmem
      exact hl.2.2 _ hmem _ List.mem_cons_self rfl
    have hrest := foldl_push l (indexed_push h hn) (by
      rw [identifiers_push]
      simpa using hl)
    refine ⟨hrest.1, hrest.2.trans ?_⟩
    simp

/-! ## Changing nodes -/

/-- The nodes of some steps changed. -/
def changed (f : Node → Node) (l : List Identifier) (nodes : List Node) : List Node :=
  nodes.map fun n => if n.identifier ∈ l then f n else n

theorem map_identifier_changed {f : Node → Node} (hf : ∀ n, (f n).identifier = n.identifier)
    (l : List Identifier) (nodes : List Node) :
    (changed f l nodes).map Node.identifier = nodes.map Node.identifier := by
  unfold changed
  rw [List.map_map]
  apply List.map_congr_left
  intro n _
  by_cases hn : n.identifier ∈ l <;> simp [hn, hf]

theorem modify_place {nodes : List Node} (h : (nodes.map Node.identifier).Nodup) (f : Node → Node)
    {i : Identifier} {place : Nat} (hi : (nodes.map Node.identifier)[place]? = some i) :
    nodes.modify place f = changed f [i] nodes := by
  apply List.ext_getElem?
  intro k
  rw [List.getElem?_modify, changed, List.getElem?_map]
  cases hk : nodes[k]? with
  | none => rfl
  | some n =>
    have hn : (nodes.map Node.identifier)[k]? = some n.identifier := by
      rw [List.getElem?_map, hk]
      rfl
    have hplace : place = k ↔ n.identifier = i := by
      constructor
      · rintro rfl
        exact Option.some.inj (hn.symm.trans hi)
      · rintro rfl
        exact (List.getElem?_inj (List.getElem?_eq_some_iff.1 hi).1 h).1 (hi.trans hn.symm)
    by_cases heq : place = k
    · simp [heq, hplace.1 heq]
    · simp [heq, mt hplace.2 heq]

section Indexed
variable {a : Assembly} (h : a.Indexed) {f : Node → Node}
include h

theorem Indexed.of_eq {b : Assembly} (hindex : b.index = a.index)
    (hids : b.identifiers = a.identifiers) : b.Indexed := by
  intro i k
  rw [hindex, hids]
  exact h i k

theorem Indexed.withNodes {nodes : List Node}
    (hnodes : nodes.map Node.identifier = a.identifiers) : (a.withNodes nodes).Indexed :=
  h.of_eq rfl hnodes

theorem modify_eq {i : Identifier} (hi : i ∈ a.identifiers) :
    a.modify i f = .ok (a.withNodes (changed f [i] a.graph.nodes)) := by
  obtain ⟨place, hplace⟩ := List.mem_iff_getElem?.1 hi
  unfold modify
  rw [(h i place).2 hplace]
  simp only
  rw [modify_place h.nodup f hplace]
  rfl

end Indexed

theorem changed_cons {f : Node → Node} (hf : ∀ n, (f n).identifier = n.identifier) {i : Identifier}
    {l : List Identifier} (hi : i ∉ l) (nodes : List Node) :
    changed f l (changed f [i] nodes) = changed f (i :: l) nodes := by
  unfold changed
  rw [List.map_map]
  apply List.map_congr_left
  intro n _
  by_cases hn : n.identifier = i
  · simp [hn, hf, hi]
  · simp [hn]

theorem modifyAll_eq {f : Node → Node} (hf : ∀ n, (f n).identifier = n.identifier) :
    ∀ {l : List Identifier} {a : Assembly}, a.Indexed → l.Nodup → (∀ i ∈ l, i ∈ a.identifiers) →
      modifyAll f a l = .ok (a.withNodes (changed f l a.graph.nodes))
  | [], a, _, _, _ => by
    simp [modifyAll, changed]
  | i :: l, a, h, hl, hmem => by
    obtain ⟨hi, hl⟩ := List.nodup_cons.1 hl
    have hids := map_identifier_changed hf [i] a.graph.nodes
    have hrest := modifyAll_eq hf (h.withNodes hids) hl (by
      intro j hj
      rw [identifiers_withNodes, hids]
      exact hmem j (List.mem_cons_of_mem i hj))
    rw [modifyAll, modify_eq h (hmem i List.mem_cons_self)]
    refine hrest.trans ?_
    rw [nodes_withNodes, withNodes_withNodes, changed_cons hf hi]

/-! ## Linking -/

theorem changed_changed_eq_stitch (leaves roots : List Identifier) (nodes : List Node) :
    changed (fun n => { n with children := n.children ++ roots }) leaves
      (changed (fun n => { n with parents := n.parents ++ leaves }) roots nodes) =
      nodes.map (Node.stitch [⟨leaves, roots⟩]) := by
  unfold changed
  rw [List.map_map]
  apply List.map_congr_left
  intro n _
  by_cases hroot : n.identifier ∈ roots <;> by_cases hleaf : n.identifier ∈ leaves <;>
    simp [Node.stitch, hroot, hleaf]

/-- Leaves and roots that have nodes are joined by a seam. -/
theorem link_eq {a : Assembly} (h : a.Indexed) {leaves roots : List Identifier}
    (hleaves : leaves.Nodup) (hroots : roots.Nodup) (hleaf : ∀ i ∈ leaves, i ∈ a.identifiers)
    (hroot : ∀ i ∈ roots, i ∈ a.identifiers) : a.link leaves roots =
      .ok (a.withNodes (a.graph.nodes.map (Node.stitch [⟨leaves, roots⟩]))) := by
  rw [← changed_changed_eq_stitch]
  unfold link
  cases roots with
  | nil =>
    simp [changed]
  | cons r roots =>
    have hids := map_identifier_changed (f := fun n => { n with parents := n.parents ++ leaves })
      (fun _ => rfl) (r :: roots) a.graph.nodes
    have hfirst := modifyAll_eq (f := fun n => { n with parents := n.parents ++ leaves })
      (fun _ => rfl) h hroots hroot
    have hsecond := modifyAll_eq (f := fun n => { n with children := n.children ++ r :: roots })
      (fun _ => rfl) (h.withNodes hids) hleaves (by
        intro i hi
        rw [identifiers_withNodes, hids]
        exact hleaf i hi)
    rw [List.isEmpty_cons, if_neg Bool.false_ne_true, hfirst]
    exact hsecond

end Assembly

end RolloutPlan
