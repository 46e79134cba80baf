import RolloutPlan.Json.Basic

/-!
# Writing JSON

* `Json.pretty`: one item or member on a line, two blanks for each level, nothing between the
  brackets of an empty list or object.
* `Json.compact`: no blanks at all.
* `Json.ascii`: no blanks, and every character outside the visible ASCII range escaped by its code
  point, so that the text is one line of a YAML document as well.
-/

namespace RolloutPlan

namespace Json

/-- A floating-point number keeps a point or an exponent. -/
def number : DecimalStyle := ⟨16, -5, "e+", "null", "null"⟩

/-- The number in base sixteen with at least `width` digits. -/
def hexDigits (width n : Nat) : List Char :=
  let digits := Nat.toDigits 16 n
  List.replicate (width - digits.length) '0' ++ digits

/-- What stands for a character in a string. Only quotes, backslashes and control characters have
to be escaped. -/
def escape (c : Char) : List Char :=
  if c = '"' then ['\\', '"']
  else if c = '\\' then ['\\', '\\']
  else if c = '\n' then ['\\', 'n']
  else if c = '\r' then ['\\', 'r']
  else if c = '\t' then ['\\', 't']
  else if c = '\x08' then ['\\', 'b']
  else if c = '\x0c' then ['\\', 'f']
  else if c.toNat < 0x20 then '\\' :: 'u' :: hexDigits 4 c.toNat
  else [c]

/-- What stands for a character in a string of ASCII characters alone. -/
def escapeAscii (c : Char) : List Char :=
  if c = '"' then ['\\', '"']
  else if c = '\\' then ['\\', '\\']
  else if 0x20 ≤ c.toNat ∧ c.toNat < 0x7F then [c]
  else if c.toNat < 0x10000 then '\\' :: 'u' :: hexDigits 4 c.toNat
  else '\\' :: 'U' :: hexDigits 8 c.toNat

def quoted (escape : Char → List Char) (s : String) : List Char :=
  '"' :: (s.toList.flatMap escape ++ ['"'])

/-- The text of a value that is neither a list nor an object. -/
def scalar (escape : Char → List Char) : Json → List Char
  | .null => "null".toList
  | .bool b => (if b then "true" else "false").toList
  | .integer n => (toString n).toList
  | .float x => (if x.isFinite then x.render number else "null").toList
  | .string s => quoted escape s
  | .array _ => []
  | .object _ => []

mutual
def flat (escape : Char → List Char) : Json → List Char
  | .array items => '[' :: (flatItems escape items ++ [']'])
  | .object members => '\x7b' :: (flatMembers escape members ++ ['\x7d'])
  | j => scalar escape j
def flatItems (escape : Char → List Char) : List Json → List Char
  | [] => []
  | [j] => flat escape j
  | j :: l => flat escape j ++ ',' :: flatItems escape l
def flatMembers (escape : Char → List Char) : List (String × Json) → List Char
  | [] => []
  | [(k, j)] => quoted escape k ++ ':' :: flat escape j
  | (k, j) :: l => quoted escape k ++ ':' :: flat escape j ++ ',' :: flatMembers escape l
end

/-- A line break and the blanks of a level. -/
def newline (level : Nat) : List Char :=
  '\n' :: List.replicate (2 * level) ' '

mutual
/-- The text with one item or member on a line, for a value that stands at a level. -/
def spread (level : Nat) : Json → List Char
  | .array [] => ['[', ']']
  | .array (j :: l) =>
    '[' :: (newline (level + 1) ++ spread (level + 1) j ++ spreadItems (level + 1) l ++
      newline level ++ [']'])
  | .object [] => ['\x7b', '\x7d']
  | .object ((k, j) :: l) =>
    '\x7b' :: (newline (level + 1) ++ quoted escape k ++ [':', ' '] ++ spread (level + 1) j ++
      spreadMembers (level + 1) l ++ newline level ++ ['\x7d'])
  | j => scalar escape j
def spreadItems (level : Nat) : List Json → List Char
  | [] => []
  | j :: l => ',' :: (newline level ++ spread level j ++ spreadItems level l)
def spreadMembers (level : Nat) : List (String × Json) → List Char
  | [] => []
  | (k, j) :: l =>
    ',' :: (newline level ++ quoted escape k ++ [':', ' '] ++ spread level j ++
      spreadMembers level l)
end

def pretty (j : Json) : String := String.ofList (spread 0 j)

def compact (j : Json) : String := String.ofList (flat escape j)

def ascii (j : Json) : String := String.ofList (flat escapeAscii j)

end Json

end RolloutPlan
