/-!
# Places in a text

A `Cursor` is the text that is still to be read together with the place where it begins. Reading a
character moves it by one column, reading a line break to the start of the next line; a carriage
return with a line feed after it is one break.

The character classes of the format stand here as well. The end of the text counts as blank
wherever a blank ends something.
-/

namespace RolloutPlan.Yaml

/-- A line feed, carriage return, next line, line separator or paragraph separator. -/
def isBreak (c : Char) : Bool :=
  c = '\n' || c = '\r' || c = '\u0085' || c = '\u2028' || c = '\u2029'

def isBlank (c : Char) : Bool := c = ' ' || c = '\t'

/-- A character of names of anchors, directives and tag handles. -/
def isWord (c : Char) : Bool := c.isAlphanum || c = '_' || c = '-'

/-- A character that may stand in a text at all. -/
def isAllowed (c : Char) : Bool :=
  let n := c.toNat
  c = '\t' || c = '\n' || c = '\r' || (0x20 ≤ n && n ≤ 0x7E) || n = 0x85 ||
    (0xA0 ≤ n && n ≤ 0xD7FF) || (0xE000 ≤ n && n ≤ 0xFFFD) || 0x10000 ≤ n

/-- A place in a text. -/
structure Cursor where
  rest : List Char
  /-- Characters before this place. -/
  index : Nat
  line : Nat
  column : Nat
  /-- Characters of the whole text; no loop over it takes more steps. -/
  total : Nat

namespace Cursor

def ofString (s : String) : Cursor := ⟨s.toList, 0, 0, 0, s.length⟩

/-- Whether the character at a distance satisfies a condition. -/
def has (p : Char → Bool) (c : Cursor) (distance : Nat) : Bool :=
  (c.rest[distance]?).any p

def sees (x : Char) (c : Cursor) (distance : Nat) : Bool := c.has (· = x) distance

def atEnd (c : Cursor) : Bool := c.rest.isEmpty

def atBreak (c : Cursor) (distance : Nat) : Bool := c.has isBreak distance

def atLineEnd (c : Cursor) (distance : Nat) : Bool :=
  (c.rest[distance]?).all isBreak

/-- A blank, a break or the end of the text. -/
def atGap (c : Cursor) (distance : Nat) : Bool :=
  (c.rest[distance]?).all fun x => isBlank x || isBreak x

def advance (n : Nat) (c : Cursor) : Cursor :=
  { c with rest := c.rest.drop n, index := c.index + n, column := c.column + n }

/-- Moves over the characters that satisfy a condition and gives them. -/
def takeWhile (p : Char → Bool) (c : Cursor) : List Char × Cursor :=
  let taken := c.rest.takeWhile p
  (taken, c.advance taken.length)

def skipWhile (p : Char → Bool) (c : Cursor) : Cursor := (c.takeWhile p).2

/-- Moves over a line break and gives what it means: the two separators stand for themselves and
every other break is a line feed. -/
def takeBreak (c : Cursor) : List Char × Cursor :=
  match c.rest with
  | '\r' :: '\n' :: r => (['\n'], ⟨r, c.index + 2, c.line + 1, 0, c.total⟩)
  | x :: r =>
    if x = '\u2028' ∨ x = '\u2029' then ([x], ⟨r, c.index + 1, c.line + 1, 0, c.total⟩)
    else if isBreak x then (['\n'], ⟨r, c.index + 1, c.line + 1, 0, c.total⟩)
    else ([], c)
  | [] => ([], c)

def skipBreak (c : Cursor) : Cursor := c.takeBreak.2

/-- Whether three equal characters with a gap after them begin a line here. -/
def atMarker (x : Char) (c : Cursor) : Bool :=
  c.column = 0 && c.sees x 0 && c.sees x 1 && c.sees x 2 && c.atGap 3

/-- Whether a line begins here with a mark between documents. -/
def atDocumentMark (c : Cursor) : Bool := c.atMarker '-' || c.atMarker '.'

def skipComment (c : Cursor) : Cursor :=
  if c.sees '#' 0 then c.skipWhile (!isBreak ·) else c

end Cursor

end RolloutPlan.Yaml
