import RolloutPlan.Decimal.Shortest

/-!
# Writing a floating-point number

A number is written with its shortest digits. The decimal point stands among them, or after zeros,
while its position is near; beyond that the number has one leading digit and an exponent.

* `DecimalStyle`: the choices of one format.
* `Binary64.render`: the text of a number in such a format.
-/

namespace RolloutPlan

/-- The choices that a format makes. -/
structure DecimalStyle where
  /-- The point is written in place up to this position, counted from the first digit. -/
  lastPlace : Int
  /-- The point is written in place after this position. -/
  firstPlace : Int
  /-- Written between the digits and an exponent that is not negative. -/
  exponentMark : String
  infinite : String
  notANumber : String

/-- The text of a decimal. A whole number keeps one zero after the point. -/
def DecimalStyle.digits (style : DecimalStyle) (d : Decimal) : String :=
  let text := toString d.digits
  let place : Int := text.length + d.exponent
  if d.digits = 0 then "0.0"
  else if style.firstPlace < place ∧ place ≤ style.lastPlace then
    if 0 ≤ d.exponent then text ++ String.ofList (List.replicate d.exponent.toNat '0') ++ ".0"
    else if 0 < place then
      String.ofList (text.toList.take place.toNat) ++ "." ++
        String.ofList (text.toList.drop place.toNat)
    else "0." ++ String.ofList (List.replicate (-place).toNat '0') ++ text
  else
    let point := if text.length = 1 then "" else "."
    let mark := if 0 ≤ place - 1 then style.exponentMark else "e"
    String.ofList (text.toList.take 1) ++ point ++ String.ofList (text.toList.drop 1) ++ mark ++
      toString (place - 1)

def Binary64.render (style : DecimalStyle) (x : Binary64) : String :=
  if x.isNaN then style.notANumber
  else
    let sign := if x.negative then "-" else ""
    if x.isFinite then sign ++ style.digits x.shortest else sign ++ style.infinite

end RolloutPlan
