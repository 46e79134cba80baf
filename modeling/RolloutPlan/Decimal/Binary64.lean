/-!
# Binary floating-point numbers

`Binary64` is a number with a sign, an eleven-bit exponent and a fraction of 52 bits. It is kept by
these three parts, so that two numbers are equal exactly when all their bits are.

* `Binary64.units`: a finite magnitude as a whole number of powers of two.
* `Binary64.ofRatio`, `Binary64.ofDecimal`: the nearest number, of two equally near ones the even.
* `Binary64.same`: equality of values, where zero has one sign and not-a-number equals itself.
-/

namespace RolloutPlan

/-- A binary floating-point number of 64 bits. -/
structure Binary64 where
  negative : Bool
  /-- The exponent as it is stored, below 2048. -/
  exponent : Nat
  /-- The fraction as it is stored, below 2 ^ 52. -/
  fraction : Nat
deriving DecidableEq, Repr

namespace Binary64

def zero (negative : Bool) : Binary64 := ⟨negative, 0, 0⟩

def infinity (negative : Bool) : Binary64 := ⟨negative, 2047, 0⟩

def nan : Binary64 := ⟨false, 2047, Nat.pow 2 51⟩

def isFinite (x : Binary64) : Bool := x.exponent < 2047

def isNaN (x : Binary64) : Bool := x.exponent = 2047 ∧ x.fraction ≠ 0

def isZero (x : Binary64) : Bool := x.exponent = 0 ∧ x.fraction = 0

def units (x : Binary64) : Nat × Int :=
  if x.exponent = 0 then (x.fraction, -1074) else (Nat.pow 2 52 + x.fraction, x.exponent - 1075)

/-- The quotient rounded to the nearest whole number, a half to the even one. -/
def roundDiv (num den : Nat) : Nat :=
  let q := num / den
  let twice := 2 * (num % den)
  if twice < den then q else if den < twice then q + 1 else q + q % 2

/-- `num / den` counted in units of `2 ^ q`, as a fraction. -/
def inUnits (num den : Nat) (q : Int) : Nat × Nat :=
  if 0 ≤ q then (num, den * Nat.pow 2 q.toNat) else (num * Nat.pow 2 (-q).toNat, den)

def ofRatio (negative : Bool) (num den : Nat) : Binary64 :=
  if num = 0 then zero negative
  else
    let low : Int := (num.log2 : Int) - den.log2 - 53
    let (n, d) := inUnits num den low
    let q := max (if n / d < Nat.pow 2 53 then low else low + 1) (-1074)
    let (n, d) := inUnits num den q
    let m := roundDiv n d
    let (m, q) := if m = Nat.pow 2 53 then (Nat.pow 2 52, q + 1) else (m, q)
    if m < Nat.pow 2 52 then ⟨negative, 0, m⟩
    else if q + 1075 < 2047 then ⟨negative, (q + 1075).toNat, m - Nat.pow 2 52⟩
    else infinity negative

/-- The number nearest to `digits * 10 ^ exponent`. Magnitudes far outside the range are settled
without computing the power. -/
def ofDecimal (negative : Bool) (digits : Nat) (exponent : Int) : Binary64 :=
  if digits = 0 then zero negative
  else
    let size : Int := digits.log2 / 3 + 1
    if exponent + size < -340 then zero negative
    else if 400 < exponent then infinity negative
    else if 0 ≤ exponent then ofRatio negative (digits * Nat.pow 10 exponent.toNat) 1
    else ofRatio negative digits (Nat.pow 10 (-exponent).toNat)

def same (x y : Binary64) : Bool :=
  x.isNaN && y.isNaN || x.isZero && y.isZero || (!x.isNaN && x = y)

end Binary64

end RolloutPlan
