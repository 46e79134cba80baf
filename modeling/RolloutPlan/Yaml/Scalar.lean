import RolloutPlan.Yaml.Datum
import RolloutPlan.Yaml.Tree

/-!
# What a scalar says

A plain scalar without a tag is null, a truth value, a number or a string, whichever its text is
first. Digits behind a leading zero are no number. One of the standard tags asks for a kind; any
other tag, and any quotes, make a string.

* `plainDatum?`: the meaning of the text of a plain scalar.
* `Tree.datum?`: the meaning of a tree; nothing if it holds an integer of more than 64 bits, a text
  that its tag does not allow, or a part that cannot be read.
-/

namespace RolloutPlan.Yaml

def isNullText (s : String) : Bool :=
  s = "null" || s = "Null" || s = "NULL" || s = "~"

def boolOfText? (s : String) : Option Bool :=
  if s = "true" ∨ s = "True" ∨ s = "TRUE" then some true
  else if s = "false" ∨ s = "False" ∨ s = "FALSE" then some false
  else none

/-! ## Numbers -/

/-- The value of a digit in a base of at most sixteen. -/
def digitIn? (base : Nat) (c : Char) : Option Nat :=
  (Text.hexValue? c).bind fun d => if d < base then some d else none

/-- The value of the digits, of which there has to be one. -/
def digits? (base : Nat) (l : List Char) : Option Nat :=
  if l = [] then none
  else l.foldl (fun n c => do return base * (← n) + (← digitIn? base c)) (some 0)

def after? (start : String) (l : List Char) : Option (List Char) :=
  let s := start.toList
  if s.isPrefixOf l then some (l.drop s.length) else none

/-- Whether the text is a sign or nothing, a zero, and then only digits. -/
def hasLeadingZero (l : List Char) : Bool :=
  let l := match l with
    | '-' :: r => r
    | '+' :: r => r
    | r => r
  match l with
  | '0' :: d :: r => (d :: r).all Char.isDigit
  | _ => false

/-- Digits in base sixteen, eight or two behind their mark. -/
def marked? (sign : String) (l : List Char) : Option Nat :=
  ((after? (sign ++ "0x") l).bind (digits? 16)) <|>
    ((after? (sign ++ "0o") l).bind (digits? 8)) <|>
    ((after? (sign ++ "0b") l).bind (digits? 2))

def integerOfText? (s : String) : Option Int :=
  let l := s.toList
  let unsigned := match l with
    | '+' :: r => r
    | r => r
  match marked? "" unsigned with
  | some n => some n
  | none =>
    match marked? "-" l with
    | some n => some (-(n : Int))
    | none =>
      if hasLeadingZero l then none
      else
        match digits? 10 unsigned with
        | some n => some n
        | none =>
          match l with
          | '-' :: r => (digits? 10 r).map fun n => -(n : Int)
          | _ => none

/-- A decimal number with an optional point and exponent, from after its sign. -/
def decimalOfText? (negative : Bool) (l : List Char) : Option Binary64 :=
  let digits := l.takeWhile Char.isDigit
  let rest := l.dropWhile Char.isDigit
  let (places, rest) := match rest with
    | '.' :: r => (r.takeWhile Char.isDigit, r.dropWhile Char.isDigit)
    | r => ([], r)
  if digits = [] ∧ places = [] then none
  else
    let exponent : Option Int := match rest with
      | [] => some 0
      | c :: r =>
        if c = 'e' ∨ c = 'E' then
          match r with
          | '-' :: r => (digits? 10 r).map fun n => -(n : Int)
          | '+' :: r => (digits? 10 r).map fun n => (n : Int)
          | r => (digits? 10 r).map fun n => (n : Int)
        else none
    match exponent, digits? 10 (digits ++ places) with
    | some e, some n =>
      let x := Binary64.ofDecimal negative n (e - places.length)
      if x.isFinite then some x else none
    | _, _ => none

def floatOfText? (s : String) : Option Binary64 :=
  let l := s.toList
  let unsigned := match l with
    | '+' :: r => r
    | r => r
  let infinite := [".inf", ".Inf", ".INF"].map String.toList
  if infinite.contains unsigned then some (.infinity false)
  else if (infinite.map ('-' :: ·)).contains l then some (.infinity true)
  else if s = ".nan" ∨ s = ".NaN" ∨ s = ".NAN" then some .nan
  else
    match l with
    | '+' :: '-' :: _ => none
    | '-' :: r => decimalOfText? true r
    | _ => decimalOfText? false unsigned

/-- An integer as a datum, if it fits into 64 bits with or without a sign. -/
def integerDatum? (n : Int) : Option Datum :=
  if -(Nat.pow 2 63 : Int) ≤ n ∧ n < (Nat.pow 2 64 : Int) then some (.integer n) else none

/-- Whether an integer fits into 128 bits with or without a sign. -/
def fitsWide (n : Int) : Bool := -(Nat.pow 2 127 : Int) ≤ n ∧ n < (Nat.pow 2 128 : Int)

/-- The number that a text is, if it is one; an integer between 64 and 128 bits is refused, and a
larger one is taken as a floating-point number. -/
def numberOfText? (s : String) : Option (Option Datum) :=
  match integerOfText? s with
  | some n =>
    if fitsWide n then some (integerDatum? n)
    else (floatOfText? s).map fun x => some (.float x)
  | none =>
    if hasLeadingZero s.toList then none else (floatOfText? s).map fun x => some (.float x)

/-! ## Scalars -/

def plainDatum? (s : String) : Option Datum :=
  if s = "" || isNullText s then some .null
  else
    match boolOfText? s with
    | some b => some (.bool b)
    | none => (numberOfText? s).getD (some (.string s))

/-- The name of a local tag, which begins with an exclamation mark. -/
def localTag? (tag : Option String) : Option String :=
  match tag.map String.toList with
  | some ('!' :: r) => some (if r = [] then "!" else String.ofList r)
  | _ => none

/-- The tag that a name of the standard stands for. -/
def standardTag (name : String) : Option String := some ("tag:yaml.org,2002:" ++ name)

namespace Scalar

/-- What a scalar says once its local tag has been dealt with. -/
def content? (s : Scalar) : Option Datum :=
  if s.style = .plain then plainDatum? s.text else some (.string s.text)

def untagged? (s : Scalar) : Option Datum :=
  if s.tag = standardTag "bool" then (boolOfText? s.text).map .bool
  else if s.tag = standardTag "int" then (integerOfText? s.text).bind integerDatum?
  else if s.tag = standardTag "float" then (floatOfText? s.text).map .float
  else if s.tag = standardTag "null" then if isNullText s.text then some .null else none
  else if s.tag.isSome then some (.string s.text)
  else s.content?

def datum? (s : Scalar) : Option Datum :=
  match localTag? s.tag with
  | some name => s.content?.map (.tagged name)
  | none => s.untagged?

end Scalar

/-- A value under a local tag, if there is one. -/
def underTag (tag : Option String) (d : Datum) : Datum :=
  match localTag? tag with
  | some name => .tagged name d
  | none => d

mutual
def Tree.datum? : Tree → Option Datum
  | .scalar s => s.datum?
  | .sequence tag items => (datumItems? items).map fun l => underTag tag (.list l)
  | .mapping tag entries => (datumEntries? entries).map fun l => underTag tag (.mapping l)
  | .unreadable => none
def datumItems? : List Tree → Option (List Datum)
  | [] => some []
  | t :: l => do
    let d ← t.datum?
    return d :: (← datumItems? l)
def datumEntries? : List (Tree × Tree) → Option (List (Datum × Datum))
  | [] => some []
  | (k, v) :: l => do
    let k ← k.datum?
    let v ← v.datum?
    return (k, v) :: (← datumEntries? l)
end

/-- What a tree says if it has no local tags. -/
def Tree.content? (t : Tree) : Option Datum :=
  t.datum?.bind fun d => if d.untagged then some d else none

/-- What a tree says if no mapping in it has a key twice. -/
def Tree.literal? (t : Tree) : Option Datum :=
  t.datum?.bind fun d => if d.wellKeyed then some d else none

end RolloutPlan.Yaml
