/-!
# Blank characters

The code points with the Unicode property `White_Space`.
-/

namespace RolloutPlan.Text

/-- Whether a character is a blank or the end of a line in some script. -/
def isBlank (c : Char) : Bool :=
  c = ' ' || (0x9 ≤ c.toNat && c.toNat ≤ 0xD) || (0x2000 ≤ c.toNat && c.toNat ≤ 0x200A) ||
    [0x85, 0xA0, 0x1680, 0x2028, 0x2029, 0x202F, 0x205F, 0x3000].contains c.toNat

/-- The characters between blanks at the beginning and at the end. -/
def trim (l : List Char) : List Char :=
  ((l.dropWhile isBlank).reverse.dropWhile isBlank).reverse

end RolloutPlan.Text
