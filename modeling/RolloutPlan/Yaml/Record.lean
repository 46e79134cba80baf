import RolloutPlan.Yaml.Scalar

/-!
# Records of a document

A structure of the program is read from a mapping, key by key. The order of the keys does not count,
keys that the structure does not know are passed over, and a key that it knows may stand only once.

There are two ways of reading. A *tree* is read directly: every scalar is a text, and a blank stands
for an empty list or mapping. *Data* has been interpreted before: a text has to be a string, and a
structure without shared parts may also be written as the list of its fields.

* `Record.required`, `Record.optional`, `Record.withDefault`: one field of a record.
* `Tree.text?`, `Tree.items?`, `Tree.record?`, …: direct reading.
* `Datum.text?`, `Datum.items?`, `Datum.record?`, …: reading of data.
-/

namespace RolloutPlan.Yaml

/-- Keys with what is written for them. -/
abbrev Record (τ : Type) := List (String × τ)

namespace Record

variable {τ α : Type}

/-- What is written for a key, if anything is. It fails if the key stands twice. -/
def entry? (r : Record τ) (key : String) : Option (Option τ) :=
  match r.filter (·.1 = key) with
  | [] => some none
  | [e] => some (some e.2)
  | _ => none

def required (r : Record τ) (key : String) (read : τ → Option α) : Option α := do
  match ← r.entry? key with
  | some t => read t
  | none => none

def withDefault (r : Record τ) (key : String) (default : α) (read : τ → Option α) : Option α := do
  match ← r.entry? key with
  | some t => read t
  | none => some default

def optional (r : Record τ) (key : String) (read : τ → Option (Option α)) : Option (Option α) :=
  r.withDefault key none read

end Record

/-! ## Direct reading -/

namespace Tree

def text? : Tree → Option String
  | .scalar s => some s.text
  | _ => none

/-- Whether a tree is a plain scalar without a text. -/
def isBlank : Tree → Bool
  | .scalar s => s.style = .plain && s.text = ""
  | _ => false

def items? : Tree → Option (List Tree)
  | .sequence _ items => some items
  | t => if t.isBlank then some [] else none

/-- The entries of a mapping; a blank has none. -/
def entries? : Tree → Option (List (Tree × Tree))
  | .mapping _ entries => some entries
  | t => if t.isBlank then some [] else none

def list? {α : Type} (read : Tree → Option α) (t : Tree) : Option (List α) := do
  (← t.items?).mapM read

def record? (t : Tree) : Option (Record Tree) := do
  (← t.entries?).mapM fun (k, v) => do return (← k.text?, v)

/-- Something that may be absent: a plain null says that it is. -/
def optional? {α : Type} (read : Tree → Option α) (t : Tree) : Option (Option α) :=
  match t with
  | .scalar s =>
    if s.style ≠ .plain then some <$> read t
    else if s.tag = standardTag "null" then if isNullText s.text then some none else none
    else if s.tag.isSome then some <$> read t
    else if s.text = "" || isNullText s.text then some none
    else some <$> read t
  | .unreadable => none
  | _ => some <$> read t

/-- A truth value, which is plain, or tagged as one in a literal block. -/
def flag? : Tree → Option Bool
  | .scalar s =>
    if s.style = .plain || (s.style = .literal && s.tag = standardTag "bool") then
      boolOfText? s.text
    else none
  | _ => none

end Tree

/-! ## Reading of data -/

namespace Datum

def text? : Datum → Option String
  | .string s => some s
  | _ => none

def flag? : Datum → Option Bool
  | .bool b => some b
  | _ => none

def count? : Datum → Option Nat
  | .integer n => if 0 ≤ n ∧ n < (Nat.pow 2 32 : Int) then some n.toNat else none
  | _ => none

def items? : Datum → Option (List Datum)
  | .list items => some items
  | _ => none

def list? {α : Type} (read : Datum → Option α) (d : Datum) : Option (List α) := do
  (← d.items?).mapM read

/-- Something that may be absent: null says that it is. -/
def optional? {α : Type} (read : Datum → Option α) (d : Datum) : Option (Option α) :=
  match d with
  | .null => some none
  | d => some <$> read d

/-- The keys of a mapping that are strings. A key that is neither a string nor a number from zero on
is refused. -/
def keyed? : List (Datum × Datum) → Option (Record Datum)
  | [] => some []
  | (.string k, v) :: l => (keyed? l).map ((k, v) :: ·)
  | (.integer n, _) :: l => if 0 ≤ n then keyed? l else none
  | _ :: _ => none

def keyed : Datum → Option (Record Datum)
  | .mapping entries => keyed? entries
  | _ => none

/-- A mapping whose keys are names of fields or their numbers, as a record. -/
def named? (names : List String) : List (Datum × Datum) → Option (Record Datum)
  | [] => some []
  | (.string k, v) :: l => (named? names l).map ((k, v) :: ·)
  | (.integer n, v) :: l =>
    if 0 ≤ n then
      (named? names l).map fun r => ((names[n.toNat]?).map (·, v)).toList ++ r
    else none
  | _ :: _ => none

def record? (names : List String) : Datum → Option (Record Datum)
  | .mapping entries => named? names entries
  | .list items => if items.length ≤ names.length then some (names.zip items) else none
  | _ => none

end Datum

end RolloutPlan.Yaml
