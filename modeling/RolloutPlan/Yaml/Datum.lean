import RolloutPlan.Decimal.Style
import RolloutPlan.Text.Quoted

/-!
# Data of a document

What a part of a document says when nothing is known about its purpose: null, truth values, numbers,
strings, lists, mappings in the order of the document, and values under a local tag.

* `Datum`: such a value.
* `Datum.same`: equality of values, as it decides whether a mapping has a key twice.
* `Datum.wellKeyed`, `Datum.untagged`: no mapping inside has a key twice; no tag inside.
* `Datum.describe`: the text of a value in messages and summaries.
-/

namespace RolloutPlan.Yaml

/-- A value of no particular purpose. -/
inductive Datum where
  | null
  | bool (b : Bool)
  | integer (n : Int)
  | float (x : Binary64)
  | string (s : String)
  | list (items : List Datum)
  | mapping (entries : List (Datum × Datum))
  | tagged (tag : String) (value : Datum)
deriving Inhabited

namespace Datum

mutual
def same : Datum → Datum → Bool
  | .null, .null => true
  | .bool a, .bool b => a = b
  | .integer a, .integer b => a = b
  | .float a, .float b => a.same b
  | .string a, .string b => a = b
  | .list a, .list b => sameItems a b
  | .mapping a, .mapping b => a.length = b.length && sameEntries a b
  | .tagged t a, .tagged u b => t = u && same a b
  | _, _ => false
def sameItems : List Datum → List Datum → Bool
  | [], [] => true
  | a :: l, b :: m => same a b && sameItems l m
  | _, _ => false
/-- Whether every entry of the first list is in the second. -/
def sameEntries : List (Datum × Datum) → List (Datum × Datum) → Bool
  | [], _ => true
  | (k, v) :: l, m => m.any (fun e => same k e.1 && same v e.2) && sameEntries l m
end

mutual
def wellKeyed : Datum → Bool
  | .list items => wellKeyedItems items
  | .mapping entries => wellKeyedEntries entries
  | .tagged _ d => d.wellKeyed
  | _ => true
def wellKeyedItems : List Datum → Bool
  | [] => true
  | d :: l => d.wellKeyed && wellKeyedItems l
def wellKeyedEntries : List (Datum × Datum) → Bool
  | [] => true
  | (k, v) :: l =>
    k.wellKeyed && v.wellKeyed && !l.any (fun e => k.same e.1) && wellKeyedEntries l
end

mutual
def untagged : Datum → Bool
  | .list items => untaggedItems items
  | .mapping entries => untaggedEntries entries
  | .tagged _ _ => false
  | _ => true
def untaggedItems : List Datum → Bool
  | [] => true
  | d :: l => d.untagged && untaggedItems l
def untaggedEntries : List (Datum × Datum) → Bool
  | [] => true
  | (k, v) :: l => k.untagged && v.untagged && untaggedEntries l
end

/-! ## Descriptions -/

/-- Numbers in descriptions are written as the document format writes them. -/
def number : DecimalStyle := ⟨16, -5, "e", ".inf", ".nan"⟩

mutual
def describe : Datum → String
  | .null => "Null"
  | .bool b => "Bool(" ++ toString b ++ ")"
  | .integer n => "Number(" ++ toString n ++ ")"
  | .float x => "Number(" ++ x.render number ++ ")"
  | .string s => "String(" ++ Text.quote s ++ ")"
  | .list items => "Sequence [" ++ ", ".intercalate (describeItems items) ++ "]"
  | .mapping entries => "Mapping \x7b" ++ ", ".intercalate (describeEntries entries) ++ "\x7d"
  | .tagged tag d => "TaggedValue \x7b tag: !" ++ tag ++ ", value: " ++ d.describe ++ " \x7d"
def describeItems : List Datum → List String
  | [] => []
  | d :: l => d.describe :: describeItems l
/-- A key that is a string, a number or a truth value is shown without the word for its kind. -/
def describeEntries : List (Datum × Datum) → List String
  | [] => []
  | (k, v) :: l =>
    let key := match k with
      | .string s => Text.quote s
      | .bool b => toString b
      | .integer n => toString n
      | .float x => x.render number
      | k => k.describe
    (key ++ ": " ++ v.describe) :: describeEntries l
end

end Datum

end RolloutPlan.Yaml
