import RolloutPlan.Json.Printer
import RolloutPlan.Yaml.Scalar

/-!
# Data as JSON

JSON has no tags, no keys but strings and no infinite numbers: a value under a tag becomes an object
with the tag as its only key, keys become strings, and infinite numbers null.

* `Datum.encode`: the JSON value of a datum.
* `Tree.ofJson`: the tree of a document that is a JSON value.
-/

namespace RolloutPlan

open Yaml

namespace Yaml.Datum

def keyText : Datum → String
  | .string s => s
  | .bool b => toString b
  | .integer n => toString n
  | .float x => x.render Datum.number
  | .null => "null"
  | d => d.describe

mutual
def encode : Datum → Json
  | .null => .null
  | .bool b => .bool b
  | .integer n => .integer n
  | .float x => if x.isFinite then .float x else .null
  | .string s => .string s
  | .list items => .array (encodeItems items)
  | .mapping entries => .object (encodeEntries entries)
  | .tagged tag d => .object [("!" ++ tag, d.encode)]
def encodeItems : List Datum → List Json
  | [] => []
  | d :: l => d.encode :: encodeItems l
def encodeEntries : List (Datum × Datum) → List (String × Json)
  | [] => []
  | (k, v) :: l => (k.keyText, v.encode) :: encodeEntries l
end

end Yaml.Datum

/-! ## Documents that are JSON values -/

namespace Yaml.Tree

def ofString (s : String) : Tree := .scalar ⟨s, .doubleQuoted, none⟩

def ofWord (s : String) : Tree := .scalar ⟨s, .plain, none⟩

mutual
def ofJson : Json → Tree
  | .null => ofWord "null"
  | .bool b => ofWord (if b then "true" else "false")
  | .integer n => ofWord (toString n)
  | .float x => ofWord (if x.isFinite then x.render Json.number else "null")
  | .string s => ofString s
  | .array items => .sequence none (ofJsonItems items)
  | .object members => .mapping none (ofJsonMembers members)
def ofJsonItems : List Json → List Tree
  | [] => []
  | j :: l => ofJson j :: ofJsonItems l
def ofJsonMembers : List (String × Json) → List (Tree × Tree)
  | [] => []
  | (k, j) :: l => (ofString k, ofJson j) :: ofJsonMembers l
end

end Yaml.Tree

end RolloutPlan
