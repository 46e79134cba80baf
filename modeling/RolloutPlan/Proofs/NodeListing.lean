import Mathlib.Order.Nat
import RolloutPlan.Proofs.CommandEffects
import RolloutPlan.Proofs.JsonText
import RolloutPlan.Proofs.WrittenRecord

/-!
# Lists of nodes that were printed

In place of a summary, the command that builds a graph can print the nodes of the graph as a JSON text. The
identifier of a node stands beside its two lists, part by part. Nothing is lost in the text, whatever
characters the names are made of.

* `Json.IsStrict`: values that no reader refuses for their form. `Json.isStrict_array`,
  `Json.isStrict_object`.
* `nodesOfText?`: the nodes that a text lists.
* `Identifier.ofJson?_encode`, `Node.ofJson?_encode`: identifiers and nodes are read as they were written.
* `nodesOfText?_nodesText`: so is a list of nodes. `nodesOfText?_graphReport`: so are the nodes of a graph.
* `graphCommand_lists_nodes`: what the command prints are the nodes of the graph that it has built.
-/

namespace RolloutPlan

open Yaml

set_option autoImplicit false

/-! ## Values that every reader takes -/

namespace Json

/-- No object in a value gives a key twice, and no collection is nested below a level. A reader may refuse
other values. -/
structure IsStrict (level : Nat) (j : Json) : Prop where
  keys : (Datum.ofJson j).wellKeyed = true
  depth : (Tree.ofJson j).depth ≤ level

instance (level : Nat) (j : Json) : Decidable (j.IsStrict level) :=
  decidable_of_iff ((Datum.ofJson j).wellKeyed = true ∧ (Tree.ofJson j).depth ≤ level)
    ⟨fun h => ⟨h.1, h.2⟩, fun h => ⟨h.keys, h.depth⟩⟩

variable {level : Nat}

theorem IsStrict.mono {j : Json} {m : Nat} (h : j.IsStrict level) (hm : level ≤ m) : j.IsStrict m :=
  ⟨h.keys, h.depth.trans hm⟩

theorem isStrict_string (s : String) : (Json.string s).IsStrict level :=
  ⟨rfl, Nat.zero_le _⟩

theorem isStrict_array {l : List Json} (hl : ∀ j ∈ l, j.IsStrict level) :
    (Json.array l).IsStrict (level + 1) := by
  constructor
  case keys =>
    rw [Datum.ofJson_array, Datum.wellKeyed, wellKeyedItems_iff]
    exact List.forall_mem_map.2 fun j hj => (hl j hj).keys
  case depth =>
    rw [Tree.ofJson_array, Tree.depth, Nat.add_le_add_iff_right, depthOfItems_le_iff]
    exact List.forall_mem_map.2 fun j hj => (hl j hj).depth

theorem isStrict_object {ms : List (String × Json)} (hkeys : (ms.map (·.1)).Nodup)
    (hms : ∀ e ∈ ms, e.2.IsStrict level) : (Json.object ms).IsStrict (level + 1) := by
  constructor
  case keys =>
    have hvalues : ∀ e ∈ ms.map fun e => (e.1, Datum.ofJson e.2), e.2.wellKeyed = true :=
      List.forall_mem_map.2 fun e he => (hms e he).keys
    have hentries := wellKeyedEntries_of_nodup (by rwa [List.map_map]) hvalues
    rw [List.map_map] at hentries
    rw [Datum.ofJson_object, Datum.wellKeyed]
    exact hentries
  case depth =>
    rw [Tree.ofJson_object, Tree.depth, Nat.add_le_add_iff_right, depthOfEntries_le_iff]
    exact List.forall_mem_map.2 fun e he => ⟨Nat.zero_le _, (hms e he).depth⟩

/-- What is nested more deeply than this may be refused. -/
def maxLevel : Nat := 127

end Json

/-- The nodes that a JSON text lists, for a reader who refuses whatever may be refused. -/
def nodesOfText? (text : String) : Option (List Node) := do
  let j ← Json.read text
  if j.IsStrict Json.maxLevel then (← j.items?).mapM Node.ofJson? else none

/-! ## Identifiers -/

namespace Identifier

@[simp] theorem ofJson?_encode (i : Identifier) : ofJson? i.encode = some i := by
  simp [ofJson?, encode, ofMembers?, members, Json.field?, Json.text?]

theorem exact_encode (i : Identifier) : i.encode.Exact := by
  rw [encode, Json.exact_object]
  simp [members]

theorem isStrict_encode (i : Identifier) : i.encode.IsStrict 1 :=
  Json.isStrict_object (by simp [members]) (by simp [members, Json.isStrict_string])

end Identifier

/-! ## Nodes -/

namespace Node

@[simp] theorem ofJson?_encode (n : Node) : ofJson? n.encode = some n := by
  have hlist (l : List Identifier) : (l.map Identifier.encode).mapM Identifier.ofJson? = some l :=
    mapM_map_eq_self fun i _ => i.ofJson?_encode
  simp [ofJson?, encode, Identifier.ofMembers?, Identifier.members, Json.field?, Json.text?,
    Json.items?, hlist]

theorem exact_encode (n : Node) : n.encode.Exact := by
  have hlist (l : List Identifier) : (Json.array (l.map Identifier.encode)).Exact :=
    Json.exact_array.2 (List.forall_mem_map.2 fun i _ => i.exact_encode)
  rw [encode, Json.exact_object]
  simp [Identifier.members, hlist]

theorem isStrict_encode (n : Node) : n.encode.IsStrict 3 := by
  have hlist (l : List Identifier) : (Json.array (l.map Identifier.encode)).IsStrict 2 :=
    Json.isStrict_array (List.forall_mem_map.2 fun i _ => i.isStrict_encode)
  refine Json.isStrict_object (by simp [Identifier.members]) ?_
  simp [Identifier.members, Json.isStrict_string, hlist]

end Node

/-! ## Lists of nodes -/

/-- A list of nodes is read from the line that is printed for it. -/
theorem nodesOfText?_nodesText (nodes : List Node) :
    nodesOfText? (nodesText nodes ++ "\n") = some nodes := by
  have hexact : (Json.array (nodes.map Node.encode)).Exact :=
    Json.exact_array.2 (List.forall_mem_map.2 fun n _ => n.exact_encode)
  have hstrict : (Json.array (nodes.map Node.encode)).IsStrict 4 :=
    Json.isStrict_array (List.forall_mem_map.2 fun n _ => n.isStrict_encode)
  have hnodes : (nodes.map Node.encode).mapM Node.ofJson? = some nodes :=
    mapM_map_eq_self fun n _ => n.ofJson?_encode
  rw [nodesOfText?, nodesText, Json.read_pretty_line hexact]
  simp only [Option.bind_eq_bind, Option.bind_some, Json.items?]
  rw [if_pos (hstrict.mono (by decide)), hnodes]

example : nodesText [{ identifier := ⟨"hub", "rg", "say \"hi\"\x07"⟩ }] =
    "[\n  \x7b\n    \"serviceGroup\": \"hub\",\n    \"resourceGroup\": \"rg\",\n" ++
      "    \"step\": \"say \\\"hi\\\"\\u0007\",\n" ++
      "    \"children\": [],\n    \"parents\": []\n  \x7d\n]" := by
  decide +kernel

/-- The nodes of a graph are read back from the list that is printed for them: the same nodes in the same
order, each with the same children and parents. -/
theorem nodesOfText?_graphReport (coloured : Bool) (q : GraphRequest) (g : Graph) :
    nodesOfText? (graphReport coloured { q with nodes := true } g) = some g.nodes :=
  nodesOfText?_nodesText g.nodes

/-- A command that is asked for the nodes, and succeeds, prints those of the graph that it has built. -/
theorem graphCommand_lists_nodes {read : Reading} {files : Files} {host : Host} {coloured : Bool}
    {q : GraphRequest} (hq : q.nodes = true)
    (h : ((graphCommand read coloured q).performOn host files).result = .ok ()) :
    ∃ r g, Rollout.loadValid read q.topology = .ok r ∧ q.build r = .ok g ∧
      nodesOfText? ((graphCommand read coloured q).performOn host files).output = some g.nodes := by
  obtain ⟨r, g, hload, hbuild, hprinted⟩ := exists_report_of_graphCommand h
  have houtput : ((graphCommand read coloured q).performOn host files).output =
      nodesText g.nodes ++ "\n" := by
    rw [Outcome.output, hprinted, graphReport, if_pos hq, String.join_cons, String.join_nil,
      String.append_empty]
  refine ⟨r, g, hload, hbuild, ?_⟩
  rw [houtput, nodesOfText?_nodesText]

end RolloutPlan
