import RolloutPlan.Decimal.Style

/-!
# Values of fields

A value that reads as a number is kept as a number, and everything else as it is written.

* `FieldValue.canonical`: the text of a value.
-/

namespace RolloutPlan.Log.FieldValue

/-- Whether a number is below zero, and the text after its sign. -/
def splitSign : List Char → Bool × List Char
  | '-' :: l => (true, l)
  | '+' :: l => (false, l)
  | l => (false, l)

def ofDigits (l : List Char) : Nat := l.foldl (fun n c => 10 * n + (c.toNat - 48)) 0

def isDigits (l : List Char) : Bool := l ≠ [] && l.all Char.isDigit

def whole? (l : List Char) : Option Int :=
  let (negative, digits) := splitSign l
  let n := ofDigits digits
  if !isDigits digits then none
  else if negative then if n ≤ Nat.pow 2 63 then some (-n) else none
  else if n < Nat.pow 2 64 then some n else none

/-- The digits before and after a point, of which there has to be one. -/
def mantissa? (l : List Char) : Option (Nat × Int) :=
  let before := l.takeWhile Char.isDigit
  match l.dropWhile Char.isDigit with
  | [] => if before = [] then none else some (ofDigits before, 0)
  | '.' :: after =>
    if (before ++ after).all Char.isDigit && before ++ after ≠ [] then
      some (ofDigits (before ++ after), -after.length)
    else none
  | _ => none

def exponent? (l : List Char) : Option Int :=
  let (negative, digits) := splitSign l
  if !isDigits digits then none
  else some (if negative then -(ofDigits digits : Int) else ofDigits digits)

/-- A number with a point or an exponent, or one that is not finite. -/
def number? (l : List Char) : Option Binary64 :=
  let (negative, l) := splitSign l
  let word := String.ofList (l.map Char.toLower)
  if word = "inf" ∨ word = "infinity" then some (Binary64.infinity negative)
  else if word = "nan" then some Binary64.nan
  else do
    let isMark (c : Char) : Bool := c = 'e' || c = 'E'
    let (digits, place) ← mantissa? (l.takeWhile (!isMark ·))
    match l.dropWhile (!isMark ·) with
    | [] => return Binary64.ofDecimal negative digits place
    | _ :: rest => return Binary64.ofDecimal negative digits (place + (← exponent? rest))

def style : DecimalStyle := ⟨400, -400, "e", "inf", "NaN"⟩

def render (x : Binary64) : String :=
  let text := (x.render style).toList
  match text.reverse with
  | '0' :: '.' :: l => String.ofList l.reverse
  | _ => String.ofList text

def canonical (text : String) : String :=
  match whole? text.toList, number? text.toList with
  | some n, _ => toString n
  | none, some x => render x
  | none, none => text

end RolloutPlan.Log.FieldValue
