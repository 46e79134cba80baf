import RolloutPlan.Decimal.Binary64

/-!
# The shortest decimal of a floating-point number

Among the decimals that read back as a given number, those with the fewest digits are taken, and of
them the one nearest to the number; an exact tie goes to the even digit.

A decimal reads back exactly when it lies in the interval of reals that round to the number. If any
decimal with a given last place lies in there, so does one of the two next to the number itself,
and these two are what `Shortest.atPlace` tries.

* `Decimal`: digits and an exponent of ten.
* `Binary64.shortest`: the decimal of a finite, positive magnitude.
-/

namespace RolloutPlan

/-- The number `digits * 10 ^ exponent`. -/
structure Decimal where
  digits : Nat
  exponent : Int
deriving DecidableEq, Repr

namespace Shortest

/-- A magnitude and the ends of the interval that rounds to it, as numerators over one common
denominator. The ends belong to the interval exactly when `closed`. -/
structure Interval where
  value : Nat
  low : Nat
  high : Nat
  denominator : Nat
  closed : Bool

/-- The interval of a finite number that is not zero. Below a power of two the numbers lie twice as
dense, so that the lower half is narrower there. -/
def interval (x : Binary64) : Interval :=
  let (m, q) := x.units
  let below := if x.fraction = 0 ∧ 1 < x.exponent then 1 else 2
  let up := Nat.pow 2 q.toNat
  { value := 4 * m * up
    low := (4 * m - below) * up
    high := (4 * m + 2) * up
    denominator := 4 * Nat.pow 2 (-q).toNat
    closed := m % 2 = 0 }

/-- `digits * 10 ^ place` compared over the denominator: both sides as whole numbers. -/
def scaled (i : Interval) (digits : Nat) (place : Int) (bound : Nat) : Nat × Nat :=
  if 0 ≤ place then (digits * Nat.pow 10 place.toNat * i.denominator, bound)
  else (digits * i.denominator, bound * Nat.pow 10 (-place).toNat)

def reads (i : Interval) (digits : Nat) (place : Int) : Bool :=
  let (c, low) := scaled i digits place i.low
  let (_, high) := scaled i digits place i.high
  if i.closed then low ≤ c && c ≤ high else low < c && c < high

/-- The distance of the decimal from the number, in units that depend on the place alone. -/
def distance (i : Interval) (digits : Nat) (place : Int) : Nat :=
  let (c, v) := scaled i digits place i.value
  (c - v) + (v - c)

def atPlace (i : Interval) (place : Int) : Option Decimal :=
  let below :=
    if 0 ≤ place then i.value / (i.denominator * Nat.pow 10 place.toNat)
    else i.value * Nat.pow 10 (-place).toNat / i.denominator
  let above := below + 1
  match reads i below place && below != 0, reads i above place with
  | true, true =>
    if distance i below place < distance i above place then some ⟨below, place⟩
    else if distance i above place < distance i below place then some ⟨above, place⟩
    else if below % 2 = 0 then some ⟨below, place⟩ else some ⟨above, place⟩
  | true, false => some ⟨below, place⟩
  | false, true => some ⟨above, place⟩
  | false, false => none

/-- The first place with a decimal that reads back, going down from `place`. -/
def search (i : Interval) : Nat → Int → Option Decimal
  | 0, _ => none
  | n + 1, place =>
    match atPlace i place with
    | some d => some d
    | none => search i n (place - 1)

/-- Moves zeros at the end of the digits into the exponent. -/
def trim : Nat → Decimal → Decimal
  | 0, d => d
  | n + 1, d => if d.digits % 10 = 0 then trim n ⟨d.digits / 10, d.exponent + 1⟩ else d

end Shortest

/-- The shortest decimal that reads back as the magnitude of a finite number. The search starts two
places above the leading digit and needs at most seventeen digits. -/
def Binary64.shortest (x : Binary64) : Decimal :=
  if x.isZero then ⟨0, 0⟩
  else
    let i := Shortest.interval x
    let size : Int := (i.value.log2 : Int) - i.denominator.log2
    let lead : Int := size * 30103 / 100000
    match Shortest.search i 24 (lead + 2) with
    | some d => Shortest.trim 20 d
    | none => ⟨0, 0⟩

end RolloutPlan
