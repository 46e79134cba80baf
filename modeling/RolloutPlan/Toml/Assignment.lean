import RolloutPlan.Toml.Token

/-!
# Assignments of a settings file

Every line assigns a value to a key or is empty. A value is a text or a list of texts, and a list may
go on over several lines. Tables, and values of other kinds, mean nothing in a settings file, so that
a document with one of them is refused.

* `Assignment`: a key with its value.
* `Assignment.read?`: the assignments of a text, in which every key stands once.
-/

namespace RolloutPlan.Toml

/-- What is assigned to a key. -/
inductive Value where
  | text (s : String)
  | texts (items : List String)
deriving DecidableEq

/-- A key with its value. -/
abbrev Assignment := String × Value

/-- The items of a list up to its closing bracket, and the tokens after it. An item can stand at the
beginning and after a comma. -/
def items? : Bool → List Token → Option (List String × List Token)
  | next, .newline :: l => items? next l
  | _, .closing :: l => some ([], l)
  | true, .text s :: l => (items? false l).map fun (items, l) => (s :: items, l)
  | true, .longText s :: l => (items? false l).map fun (items, l) => (s :: items, l)
  | false, .comma :: l => items? true l
  | _, _ => none

def value? : List Token → Option (Value × List Token)
  | .text s :: l => some (.text s, l)
  | .longText s :: l => some (.text s, l)
  | .opening :: l => (items? true l).map fun (items, l) => (.texts items, l)
  | _ => none

def key? : Token → Option String
  | .bare key => some key
  | .text key => some key
  | _ => none

def endOfLine? : List Token → Option (List Token)
  | [] => some []
  | .newline :: l => some l
  | _ => none

def assignmentsUpTo? : Nat → List Token → Option (List Assignment)
  | _, [] => some []
  | 0, _ :: _ => none
  | n + 1, .newline :: l => assignmentsUpTo? n l
  | n + 1, token :: .equals :: l => do
    let key ← key? token
    let (value, l) ← value? l
    let rest ← assignmentsUpTo? n (← endOfLine? l)
    return (key, value) :: rest
  | _, _ => none

def Assignment.read? (text : String) : Option (List Assignment) := do
  let tokens ← Token.scan text
  let assignments ← assignmentsUpTo? tokens.length tokens
  if (assignments.map (·.1)).Nodup then some assignments else none

end RolloutPlan.Toml
