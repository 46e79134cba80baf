import RolloutPlan.Json.Basic
import RolloutPlan.Text.Hexadecimal

/-!
# Reading JSON

A text is one value between blanks. A number without point and exponent is a whole number if it
fits into 64 bits and a floating-point number otherwise.

* `Json.read`: the value of a text.
-/

namespace RolloutPlan

namespace Json

def isBlank (c : Char) : Bool :=
  c = ' ' || c = '\n' || c = '\t' || c = '\r'

def skipBlanks (l : List Char) : List Char := l.dropWhile isBlank

def readCodeUnit (l : List Char) : Option (Nat × List Char) := Text.hexNumber? 4 l 0

/-- A character given by one code unit, or by two that belong together. -/
def readCodePoint (l : List Char) : Option (Char × List Char) :=
  match readCodeUnit l with
  | none => none
  | some (u, rest) =>
    if 0xD800 ≤ u ∧ u < 0xDC00 then
      match rest with
      | '\\' :: 'u' :: rest =>
        match readCodeUnit rest with
        | some (v, rest) =>
          if 0xDC00 ≤ v ∧ v < 0xE000 then
            some (Char.ofNat (0x10000 + (u - 0xD800) * 0x400 + (v - 0xDC00)), rest)
          else none
        | none => none
      | _ => none
    else if 0xDC00 ≤ u ∧ u < 0xE000 then none
    else some (Char.ofNat u, rest)

/-- The character that an escape stands for, from after the backslash. -/
def readEscape : List Char → Option (Char × List Char)
  | '"' :: l => some ('"', l)
  | '\\' :: l => some ('\\', l)
  | '/' :: l => some ('/', l)
  | 'n' :: l => some ('\n', l)
  | 'r' :: l => some ('\r', l)
  | 't' :: l => some ('\t', l)
  | 'b' :: l => some ('\x08', l)
  | 'f' :: l => some ('\x0c', l)
  | 'u' :: l => readCodePoint l
  | _ => none

def readString : Nat → List Char → Option (List Char × List Char)
  | 0, _ => none
  | _ + 1, [] => none
  | n + 1, c :: l =>
    if c = '"' then some ([], l)
    else if c = '\\' then
      match readEscape l with
      | some (e, l) => (readString n l).map fun (s, l) => (e :: s, l)
      | none => none
    else if c.toNat < 0x20 then none
    else (readString n l).map fun (s, l) => (c :: s, l)

def decimal (digits : List Char) : Nat :=
  digits.foldl (fun n c => 10 * n + (c.toNat - 48)) 0

/-- The exponent of a number, if one follows; nothing at all if its digits are missing. -/
def readExponent (l : List Char) : Option (Option Int × List Char) :=
  match l with
  | c :: rest =>
    if c = 'e' ∨ c = 'E' then
      let (negative, rest) := match rest with
        | '-' :: r => (true, r)
        | '+' :: r => (false, r)
        | r => (false, r)
      let digits := rest.takeWhile Char.isDigit
      if digits = [] then none
      else
        let n : Int := decimal digits
        some (some (if negative then -n else n), rest.dropWhile Char.isDigit)
    else some (none, l)
  | [] => some (none, [])

/-- The digits after a point, if one follows; nothing at all if they are missing. -/
def readFraction (l : List Char) : Option (Option (List Char) × List Char) :=
  match l with
  | '.' :: rest =>
    let digits := rest.takeWhile Char.isDigit
    if digits = [] then none else some (some digits, rest.dropWhile Char.isDigit)
  | _ => some (none, l)

/-- A number that has no point and no exponent. -/
def whole (negative : Bool) (n : Nat) : Json :=
  if negative then
    if n = 0 ∨ Nat.pow 2 63 < n then .float (Binary64.ofDecimal true n 0) else .integer (-(n : Int))
  else if n < Nat.pow 2 64 then .integer n else .float (Binary64.ofDecimal false n 0)

def readNumber (l : List Char) : Option (Json × List Char) := do
  let (negative, l) := match l with
    | '-' :: r => (true, r)
    | r => (false, r)
  let digits := l.takeWhile Char.isDigit
  let rest := l.dropWhile Char.isDigit
  if digits = [] ∨ (1 < digits.length ∧ digits.head? = some '0') then none
  let (fraction, rest) ← readFraction rest
  let (exponent, rest) ← readExponent rest
  match fraction, exponent with
  | none, none => return (whole negative (decimal digits), rest)
  | _, _ =>
    let places := fraction.getD []
    let x := Binary64.ofDecimal negative (decimal (digits ++ places))
      (exponent.getD 0 - places.length)
    if x.isFinite then return (.float x, rest) else none

def readWord (l : List Char) : Option (Json × List Char) :=
  match l with
  | 'n' :: 'u' :: 'l' :: 'l' :: r => some (.null, r)
  | 't' :: 'r' :: 'u' :: 'e' :: r => some (.bool true, r)
  | 'f' :: 'a' :: 'l' :: 's' :: 'e' :: r => some (.bool false, r)
  | _ => readNumber l

mutual
def readValue : Nat → List Char → Option (Json × List Char)
  | 0, _ => none
  | n + 1, l =>
    match l with
    | '"' :: r => (readString (r.length + 1) r).map fun (s, r) => (.string (String.ofList s), r)
    | '[' :: r =>
      match skipBlanks r with
      | ']' :: r => some (.array [], r)
      | r => (readItems n r).map fun (js, r) => (.array js, r)
    | '\x7b' :: r =>
      match skipBlanks r with
      | '\x7d' :: r => some (.object [], r)
      | r => (readMembers n r).map fun (ms, r) => (.object ms, r)
    | _ => readWord l
/-- The items of a list up to its closing bracket. -/
def readItems : Nat → List Char → Option (List Json × List Char)
  | 0, _ => none
  | n + 1, l =>
    match readValue n l with
    | none => none
    | some (j, r) =>
      match skipBlanks r with
      | ']' :: r => some ([j], r)
      | ',' :: r => (readItems n (skipBlanks r)).map fun (js, r) => (j :: js, r)
      | _ => none
/-- The members of an object up to its closing brace. -/
def readMembers : Nat → List Char → Option (List (String × Json) × List Char)
  | 0, _ => none
  | n + 1, l =>
    match l with
    | '"' :: r =>
      match readString (r.length + 1) r with
      | none => none
      | some (k, r) =>
        match skipBlanks r with
        | ':' :: r =>
          match readValue n (skipBlanks r) with
          | none => none
          | some (j, r) =>
            match skipBlanks r with
            | '\x7d' :: r => some ([(String.ofList k, j)], r)
            | ',' :: r =>
              (readMembers n (skipBlanks r)).map fun (ms, r) => ((String.ofList k, j) :: ms, r)
            | _ => none
        | _ => none
    | _ => none
end

def read (text : String) : Option Json :=
  let l := text.toList
  match readValue (2 * l.length + 2) (skipBlanks l) with
  | some (j, r) => if skipBlanks r = [] then some j else none
  | none => none

end Json

end RolloutPlan
