import RolloutPlan.Yaml.Node
import RolloutPlan.Yaml.Node.Grammar
import RolloutPlan.Yaml.Token.Lexer

/-!
# Trees of a document

What a document means before its scalars are interpreted: aliases are replaced by what they stand
for. Two things put a bound on a tree. Collections may be nested in 128 levels, and the aliases that are
followed may not be more than a hundred times the size of the document. A part beyond these bounds becomes
`Tree.unreadable`: it does no harm where nobody looks at it, and no decoder accepts it.

* `Tree`: a part of a document without aliases.
* `Node.expand`, `Document.tree`: replacing aliases.
* `Tree.limited`: cutting off what is nested too deeply.
* `Tree.ofText?`: the tree of a text that holds one document.
-/

namespace RolloutPlan.Yaml

/-- A part of a document without aliases. -/
inductive Tree where
  | scalar (s : Scalar)
  | sequence (tag : Option String) (items : List Tree)
  | mapping (tag : Option String) (entries : List (Tree × Tree))
  | unreadable
deriving Inhabited

/-! ## Aliases -/

/-- What an alias stands for, and how many aliases are followed in reading it. -/
structure Expansion where
  tree : Tree
  aliases : Nat

/-- What the anchors stand for, by their numbers. -/
abbrev Expansions := List (Nat × Expansion)

mutual
/-- Replaces the aliases of a node from left to right, as long as no more than a number of them have to be
followed, and says how many of these are left. -/
def Node.expand (known : Expansions) (left : Nat) : Node → Tree × Nat
  | .alias number =>
    match known.find? (·.1 = number) with
    | some (_, e) => if e.aliases < left then (e.tree, left - (e.aliases + 1)) else (.unreadable, left)
    | none => (.unreadable, left)
  | .scalar s => (.scalar s, left)
  | .sequence tag items =>
    match expandItems known left items with
    | (items, left) => (.sequence tag items, left)
  | .mapping tag entries =>
    match expandEntries known left entries with
    | (entries, left) => (.mapping tag entries, left)
def expandItems (known : Expansions) (left : Nat) : List Node → List Tree × Nat
  | [] => ([], left)
  | i :: l =>
    match i.expand known left with
    | (item, left) =>
      match expandItems known left l with
      | (items, left) => (item :: items, left)
def expandEntries (known : Expansions) (left : Nat) :
    List (Node × Node) → List (Tree × Tree) × Nat
  | [] => ([], left)
  | (k, v) :: l =>
    match k.expand known left with
    | (key, left) =>
      match v.expand known left with
      | (value, left) =>
        match expandEntries known left l with
        | (entries, left) => ((key, value) :: entries, left)
end

mutual
/-- Following aliases leaves no more of them to be followed. -/
theorem Node.left_expand_le (known : Expansions) : ∀ (left : Nat) (n : Node),
    (n.expand known left).2 ≤ left
  | left, .alias number => by
    rw [Node.expand]
    split
    · split
      · exact Nat.sub_le _ _
      · exact Nat.le_refl _
    · exact Nat.le_refl _
  | _, .scalar _ => Nat.le_refl _
  | left, .sequence _ items => left_expandItems_le known left items
  | left, .mapping _ entries => left_expandEntries_le known left entries
theorem left_expandItems_le (known : Expansions) : ∀ (left : Nat) (l : List Node),
    (expandItems known left l).2 ≤ left
  | _, [] => Nat.le_refl _
  | left, i :: l =>
    Nat.le_trans (left_expandItems_le known _ l) (i.left_expand_le known left)
theorem left_expandEntries_le (known : Expansions) : ∀ (left : Nat) (l : List (Node × Node)),
    (expandEntries known left l).2 ≤ left
  | _, [] => Nat.le_refl _
  | left, (k, v) :: l =>
    Nat.le_trans (left_expandEntries_le known _ l)
      (Nat.le_trans (v.left_expand_le known _) (k.left_expand_le known left))
end

namespace Document

def aliasLimit (d : Document) : Nat := 100 * d.size

/-- What the anchors stand for when those inside of them stand for what is known. -/
def expandAnchors (d : Document) (known : Expansions) : Expansions :=
  d.anchored.map fun (number, n) =>
    match n.expand known d.aliasLimit with
    | (tree, left) => (number, ⟨tree, d.aliasLimit - left⟩)

/-- What the anchors stand for after a number of rounds. In every round an anchor becomes known whose
inner aliases were known before, so that as many rounds as anchors are enough. -/
def expansions (d : Document) : Nat → Expansions
  | 0 => []
  | n + 1 => d.expandAnchors (expansions d n)

/-- The tree of a document. All aliases that are followed from its root count together. -/
def tree (d : Document) : Tree :=
  (d.root.expand (d.expansions d.anchored.length) d.aliasLimit).1

end Document

/-! ## Nesting -/

/-- The number of levels in which collections may be nested. -/
def maxDepth : Nat := 128

mutual
def Tree.limited : Nat → Tree → Tree
  | _, .scalar s => .scalar s
  | 0, .sequence _ _ => .unreadable
  | 0, .mapping _ _ => .unreadable
  | n + 1, .sequence tag items => .sequence tag (limitedItems n items)
  | n + 1, .mapping tag entries => .mapping tag (limitedEntries n entries)
  | _, .unreadable => .unreadable
def limitedItems (n : Nat) : List Tree → List Tree
  | [] => []
  | t :: l => t.limited n :: limitedItems n l
def limitedEntries (n : Nat) : List (Tree × Tree) → List (Tree × Tree)
  | [] => []
  | (k, v) :: l => (k.limited n, v.limited n) :: limitedEntries n l
end

def Tree.ofText? (text : String) : Option Tree := do
  let tokens ← Token.scan text
  let d ← Document.ofTokens? tokens
  return d.tree.limited maxDepth

end RolloutPlan.Yaml
