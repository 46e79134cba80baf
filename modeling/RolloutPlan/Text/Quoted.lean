import RolloutPlan.Text.Extending
import RolloutPlan.Text.Unprintable

/-!
# Quoted text

How a name is shown inside a message when its ends have to be visible. A quote and a backslash are
escaped, the usual blanks have short escapes, and every character that could not be seen on its own
is shown by its code point.

* `quoteChar`: what stands for one character.
* `quote`: the text between double quotes.
-/

namespace RolloutPlan.Text

/-- The digits of a number in base sixteen, lower case and without leading zeros. -/
def hex (n : Nat) : String :=
  String.ofList (Nat.toDigits 16 n)

def quoteChar (c : Char) : String :=
  if c = '"' then "\\\""
  else if c = '\\' then "\\\\"
  else if c = '\n' then "\\n"
  else if c = '\r' then "\\r"
  else if c = '\t' then "\\t"
  else if c.toNat = 0 then "\\0"
  else if c.toNat < 0x7F && 0x20 ≤ c.toNat then c.toString
  else if isExtending c || isUnprintable c then "\\u\x7b" ++ hex c.toNat ++ "\x7d"
  else c.toString

def quote (s : String) : String :=
  "\"" ++ String.join (s.toList.map quoteChar) ++ "\""

end RolloutPlan.Text
