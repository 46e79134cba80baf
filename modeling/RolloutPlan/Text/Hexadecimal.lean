/-!
# Numbers in base sixteen

* `Text.hexValue?`, `Text.hexNumber?`: the value of one digit, and of a given number of them.
* `Text.character?`, `Text.hexCharacter?`: the character with a code point.
-/

namespace RolloutPlan.Text

def hexValue? (c : Char) : Option Nat :=
  if '0' ≤ c ∧ c ≤ '9' then some (c.toNat - 48)
  else if 'a' ≤ c ∧ c ≤ 'f' then some (c.toNat - 87)
  else if 'A' ≤ c ∧ c ≤ 'F' then some (c.toNat - 55)
  else none

def hexNumber? : Nat → List Char → Nat → Option (Nat × List Char)
  | 0, l, value => some (value, l)
  | _ + 1, [], _ => none
  | n + 1, c :: l, value => do hexNumber? n l (16 * value + (← hexValue? c))

def character? (n : Nat) : Option Char :=
  if n.isValidChar then some (Char.ofNat n) else none

def hexCharacter? (n : Nat) (l : List Char) : Option (Char × List Char) := do
  let (value, l) ← hexNumber? n l 0
  return (← character? value, l)

end RolloutPlan.Text
