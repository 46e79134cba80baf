import RolloutPlan.Decimal.Style
import RolloutPlan.Sorted

/-!
# JSON values

Whole numbers and floating-point numbers are kept apart, and the members of an object keep the
order in which they stand.

* `Json`: a value.
* `Json.field?`, `Json.text?`, `Json.items?`: looking into one.
* `Json.canonical`: the same value with the members of every object in the order of their keys.
-/

namespace RolloutPlan

/-- A JSON value. -/
inductive Json where
  | null
  | bool (b : Bool)
  | integer (n : Int)
  | float (x : Binary64)
  | string (s : String)
  | array (items : List Json)
  | object (members : List (String × Json))
deriving Inhabited

namespace Json

def field? (key : String) : Json → Option Json
  | .object members => (members.reverse.find? (·.1 = key)).map (·.2)
  | _ => none

def text? : Json → Option String
  | .string s => some s
  | _ => none

def items? : Json → Option (List Json)
  | .array items => some items
  | _ => none

def members? : Json → Option (List (String × Json))
  | .object members => some members
  | _ => none

def strings (l : List String) : Json := .array (l.map .string)

def optional (s : Option String) : Json := s.elim .null .string

mutual
def canonical : Json → Json
  | .array items => .array (canonicalItems items)
  | .object members => .object (Sorted.ofPairs (canonicalMembers members)).entries
  | .null => .null
  | .bool b => .bool b
  | .integer n => .integer n
  | .float x => .float x
  | .string s => .string s
def canonicalItems : List Json → List Json
  | [] => []
  | j :: l => j.canonical :: canonicalItems l
def canonicalMembers : List (String × Json) → List (String × Json)
  | [] => []
  | (k, j) :: l => (k, j.canonical) :: canonicalMembers l
end

end Json

end RolloutPlan
