import RolloutPlan.Text.Hexadecimal
import RolloutPlan.Yaml.Cursor
import RolloutPlan.Yaml.Token

/-!
# Scalars in a text

Scalars fold their lines: a single break between two lines becomes a space, and of several breaks
the first one is dropped. Blanks around a break are not part of the text.

* `Gap`: blanks and breaks between two words, and what is left of them after folding.
* `plainScalar`, `quotedScalar`, `blockScalar`: the text of a scalar and the place after it.
-/

namespace RolloutPlan.Yaml

/-! ## Gaps between words -/

/-- Blanks and breaks that were met after a word. -/
structure Gap where
  /-- Whether the line was left. -/
  broken : Bool
  blanks : List Char
  first : List Char
  more : List Char

namespace Gap

def none : Gap := ⟨false, [], [], []⟩

/-- A break that is escaped counts as one that leaves nothing. -/
def escaped : Gap := ⟨true, [], [], []⟩

def folded (g : Gap) : List Char :=
  if g.broken then
    if g.first = ['\n'] then if g.more = [] then [' '] else g.more else g.first ++ g.more
  else g.blanks

end Gap

/-- Moves over blanks and breaks. A tab may not stand where a line has to be indented. -/
def Cursor.takeGap (indent : Int) : Nat → Cursor → Gap → Option (Gap × Cursor)
  | 0, _, _ => none
  | n + 1, c, g =>
    if c.has isBlank 0 then
      if g.broken then
        if (c.column : Int) < indent && c.sees '\t' 0 then none
        else takeGap indent n (c.advance 1) g
      else takeGap indent n (c.advance 1) { g with blanks := g.blanks ++ c.rest.take 1 }
    else if c.atBreak 0 then
      let (b, c) := c.takeBreak
      if g.broken then takeGap indent n c { g with more := g.more ++ b }
      else takeGap indent n c ⟨true, [], b, []⟩
    else some (g, c)

/-! ## Plain scalars -/

/-- The characters up to the next blank or break that belong to a plain scalar. Inside brackets a
colon may not stand directly before an indicator. -/
def plainWord (flow : Bool) : List Char → Option (List Char)
  | [] => some []
  | x :: l =>
    if isBlank x || isBreak x then some []
    else if flow && x = ':' && (l.head?).any (",?[]\x7b\x7d".toList.contains ·) then none
    else if x = ':' && (l.head?).all (fun y => isBlank y || isBreak y) then some []
    else if flow && ",[]\x7b\x7d".toList.contains x then some []
    else (plainWord flow l).map (x :: ·)

/-- The rest of a plain scalar after the gap that was met last, and whether lines were left after its
last word. -/
def plainWords (flow : Bool) (indent : Int) :
    Nat → Cursor → Gap → Option (List Char × Bool × Cursor)
  | 0, _, _ => none
  | n + 1, c, gap =>
    if c.atDocumentMark || c.sees '#' 0 then some ([], gap.broken, c)
    else do
      let word ← plainWord flow c.rest
      let c := c.advance word.length
      let text := if word = [] then [] else gap.folded ++ word
      let gap := if word = [] then gap else Gap.none
      if c.atEnd || !c.atGap 0 then return (text, gap.broken, c)
      let (gap, c) ← c.takeGap indent (c.total + 1) gap
      if !flow && (c.column : Int) < indent then return (text, gap.broken, c)
      let (rest, broken, c) ← plainWords flow indent n c gap
      return (text ++ rest, broken, c)

def plainScalar (flow : Bool) (indent : Int) (c : Cursor) : Option (Token × Bool × Cursor) := do
  let (text, broken, c) ← plainWords flow indent (c.total + 1) c Gap.none
  return (.scalar (String.ofList text) .plain, broken, c)

/-! ## Quoted scalars -/

/-- How many digits follow the letter of an escape by code point. -/
def escapeLength? (c : Char) : Option Nat :=
  if c = 'x' then some 2 else if c = 'u' then some 4 else if c = 'U' then some 8 else none

/-- The character that an escape of one letter stands for. -/
def escapeLetter? (c : Char) : Option Char :=
  match c with
  | '0' => some (Char.ofNat 0)
  | 'a' => some '\x07'
  | 'b' => some '\x08'
  | 't' => some '\t'
  | '\t' => some '\t'
  | 'n' => some '\n'
  | 'v' => some '\x0b'
  | 'f' => some '\x0c'
  | 'r' => some '\r'
  | 'e' => some '\x1b'
  | ' ' => some ' '
  | '"' => some '"'
  | '/' => some '/'
  | '\\' => some '\\'
  | 'N' => some '\u0085'
  | '_' => some '\u00a0'
  | 'L' => some '\u2028'
  | 'P' => some '\u2029'
  | _ => none

/-- The character of an escape and the length of the escape without its backslash. -/
def escapeChar? : List Char → Option (Char × Nat)
  | [] => none
  | x :: l =>
    match escapeLength? x with
    | some n => do
      let (x, _) ← Text.hexCharacter? n l
      return (x, n + 1)
    | none => (escapeLetter? x).map fun y => (y, 1)

/-- The characters of a quoted scalar up to the next blank, break or closing quote, and whether
they end with an escaped break. -/
def quotedWord (single : Bool) : Nat → Cursor → List Char → Option (List Char × Bool × Cursor)
  | 0, _, _ => none
  | n + 1, c, text =>
    if c.atGap 0 then some (text.reverse, false, c)
    else if single && c.sees '\'' 0 && c.sees '\'' 1 then
      quotedWord single n (c.advance 2) ('\'' :: text)
    else if c.sees (if single then '\'' else '"') 0 then some (text.reverse, false, c)
    else if !single && c.sees '\\' 0 && c.atBreak 1 then
      some (text.reverse, true, (c.advance 1).skipBreak)
    else if !single && c.sees '\\' 0 then do
      let (x, length) ← escapeChar? (c.rest.drop 1)
      quotedWord single n (c.advance (length + 1)) (x :: text)
    else quotedWord single n (c.advance 1) (c.rest.take 1 ++ text)

/-- The rest of a quoted scalar, and the place after its closing quote. -/
def quotedWords (single : Bool) : Nat → Cursor → Option (List Char × Cursor)
  | 0, _ => none
  | n + 1, c =>
    if c.atDocumentMark || c.atEnd then none
    else do
      let (word, escaped, c) ← quotedWord single (c.total + 1) c []
      if c.sees (if single then '\'' else '"') 0 then return (word, c.advance 1)
      let (gap, c) ← c.takeGap 0 (c.total + 1) (if escaped then Gap.escaped else Gap.none)
      let (rest, c) ← quotedWords single n c
      return (word ++ (gap.folded ++ rest), c)

def quotedScalar (single : Bool) (c : Cursor) : Option (Token × Cursor) := do
  let (text, c) ← quotedWords single (c.total + 1) (c.advance 1)
  return (.scalar (String.ofList text) (if single then .singleQuoted else .doubleQuoted), c)

/-! ## Block scalars -/

/-- What becomes of the breaks at the end of a block scalar. -/
inductive Chomping where
  | strip
  | clip
  | keep
deriving DecidableEq

def Chomping.ofChar? (c : Char) : Option Chomping :=
  if c = '+' then some .keep else if c = '-' then some .strip else none

/-- The indicators after the one that opens a block scalar, in either order: how it ends, and by how
much it is indented. -/
def blockIndicators (c : Cursor) : Option (Chomping × Option Nat × Cursor) :=
  let chomp (c : Cursor) : Option Chomping := c.rest.head? >>= Chomping.ofChar?
  let digit (c : Cursor) : Option Nat :=
    (c.rest.head?).bind fun x => if x.isDigit then some (x.toNat - 48) else none
  match chomp c, digit c with
  | some k, _ =>
    let c := c.advance 1
    match digit c with
    | some 0 => none
    | some d => some (k, some d, c.advance 1)
    | none => some (k, none, c)
  | none, some 0 => none
  | none, some d =>
    let c := c.advance 1
    match chomp c with
    | some k => some (k, some d, c.advance 1)
    | none => some (.clip, some d, c)
  | none, none => some (.clip, none, c)

/-- Moves over empty lines and the indentation of the next line, as far as the indentation is known.
Gives the breaks and the widest indentation met. -/
def blockBreaks (indent : Option Nat) :
    Nat → Cursor → List Char → Nat → Option (List Char × Nat × Cursor)
  | 0, _, _, _ => none
  | n + 1, c, breaks, widest =>
    let blanks := c.rest.takeWhile (· = ' ')
    let room := (indent.map (· - c.column)).getD blanks.length
    let c := c.advance (min blanks.length room)
    let widest := max widest c.column
    if (indent.all (c.column < ·)) && c.sees '\t' 0 then none
    else if c.atBreak 0 then
      let (b, c) := c.takeBreak
      blockBreaks indent n c (breaks ++ b) widest
    else some (breaks, widest, c)

/-- The rest of a block scalar after one of its lines: `pending` is the break after the line and
`breaks` those of the empty lines after it. What the last line leaves of them is given as well. -/
def blockLines (literal : Bool) (indent : Nat) :
    Nat → Cursor → List Char → List Char → Bool →
      Option (List Char × List Char × List Char × Cursor)
  | 0, _, _, _, _ => none
  | n + 1, c, pending, breaks, blankBefore =>
    if c.column ≠ indent || c.atEnd then some ([], pending, breaks, c)
    else do
      let blank := c.has isBlank 0
      let joint :=
        if !literal && pending = ['\n'] && !blankBefore && !blank then
          if breaks = [] then [' '] else breaks
        else pending ++ breaks
      let (line, c) := c.takeWhile (!isBreak ·)
      let (pending, c) := c.takeBreak
      let (breaks, _, c) ← blockBreaks (some indent) (c.total + 1) c [] 0
      let (rest, pending, breaks, c) ← blockLines literal indent n c pending breaks blank
      return (joint ++ (line ++ rest), pending, breaks, c)

def blockScalar (literal : Bool) (parent : Int) (c : Cursor) : Option (Token × Cursor) := do
  let (chomping, increment, c) ← blockIndicators (c.advance 1)
  let c := (c.skipWhile isBlank).skipComment
  if !c.atLineEnd 0 then none
  let c := c.skipBreak
  let given := increment.map fun d => if 0 ≤ parent then parent.toNat + d else d
  let (breaks, widest, c) ← blockBreaks given (c.total + 1) c [] 0
  let indent := given.getD (max (max widest (parent + 1).toNat) 1)
  let (text, pending, breaks, c) ←
    blockLines literal indent (c.total + 1) c [] breaks false
  let ending := match chomping with
    | .strip => []
    | .clip => pending
    | .keep => pending ++ breaks
  return (.scalar (String.ofList (text ++ ending)) (if literal then .literal else .folded), c)

end RolloutPlan.Yaml
