import RolloutPlan.Yaml.Token.Scalar

/-!
# Tokens of a text

The text is read token by token. What makes this more than a division of the text is that a key is
known as a key only when the colon after it is met: until then its place among the tokens is kept,
and the tokens that announce it are inserted there afterwards. Such a key has to stand on one line
and within 1024 characters.

* `Lexer.State`: the tokens so far, the open indentations and the possible keys.
* `Lexer.step`: one more token.
* `Token.scan`: all tokens of a text.
-/

namespace RolloutPlan.Yaml

namespace Lexer

/-- A place where a key may have begun. -/
structure PossibleKey where
  /-- Nothing but a key can stand here. -/
  required : Bool
  /-- The number of tokens before it. -/
  position : Nat
  index : Nat
  line : Nat
  column : Nat

/-- What is known after a part of the text. -/
structure State where
  cursor : Cursor
  tokens : Array Token
  /-- The indentation of the innermost block collection; outside of all of them it is -1. -/
  indent : Int
  outer : List Int
  keyAllowed : Bool
  /-- The possible key outside of all brackets. -/
  blockKey : Option PossibleKey
  /-- For each open bracket, the innermost first, the possible key inside of it. -/
  flowKeys : List (Option PossibleKey)

namespace State

def start (text : String) : State :=
  { cursor := Cursor.ofString text
    tokens := #[]
    indent := -1
    outer := []
    keyAllowed := true
    blockKey := none
    flowKeys := [] }

def inFlow (s : State) : Bool := !s.flowKeys.isEmpty

def emit (t : Token) (s : State) : State := { s with tokens := s.tokens.push t }

/-- Inserts a token before those that were read from a position on. -/
def emitAt (position : Nat) (t : Token) (s : State) : State :=
  { s with tokens := s.tokens.insertIdxIfInBounds position t }

/-! ## Indentation -/

/-- Closes the block collections that are indented by more than a column. -/
def closeBlocks (column : Int) (s : State) : State :=
  if s.inFlow then s
  else
    let open_ := s.indent :: s.outer
    let closed := open_.takeWhile (column < ·)
    let left := open_.drop closed.length
    { s with
      tokens := s.tokens ++ (closed.map fun _ => Token.blockEnd).toArray
      indent := left.headD (-1)
      outer := left.drop 1 }

/-- Opens a block collection at a column unless one is open there. -/
def openBlock (column : Nat) (position : Nat) (t : Token) (s : State) : State :=
  if s.inFlow || (column : Int) ≤ s.indent then s
  else { s.emitAt position t with indent := column, outer := s.indent :: s.outer }

/-! ## Possible keys -/

/-- The possible key of the innermost bracket, or the one outside of all brackets. -/
def possibleKey (s : State) : Option PossibleKey :=
  match s.flowKeys with
  | k :: _ => k
  | [] => s.blockKey

def setKey (k : Option PossibleKey) (s : State) : State :=
  match s.flowKeys with
  | _ :: l => { s with flowKeys := k :: l }
  | [] => { s with blockKey := k }

/-- Gives up the possible key; fails if it had to be one. -/
def dropKey (s : State) : Option State :=
  if s.possibleKey.any (·.required) then none else some (s.setKey none)

def noteKey (s : State) : Option State :=
  if s.keyAllowed then do
    let key : PossibleKey :=
      { required := !s.inFlow && s.indent = (s.cursor.column : Int)
        position := s.tokens.size
        index := s.cursor.index
        line := s.cursor.line
        column := s.cursor.column }
    return (← s.dropKey).setKey (some key)
  else some s

/-- Whether a key that began there can still end here. -/
def isLive (s : State) (k : PossibleKey) : Bool :=
  s.cursor.line ≤ k.line && s.cursor.index ≤ k.index + 1024

/-- Gives up every key that has become too long; fails if one of them had to be a key. -/
def dropStale (s : State) : Option State :=
  let stale (k : Option PossibleKey) : Bool := k.any fun k => !s.isLive k
  let bad (k : Option PossibleKey) : Bool := k.any fun k => !s.isLive k && k.required
  if bad s.blockKey || s.flowKeys.any bad then none
  else
    some { s with
      blockKey := if stale s.blockKey then none else s.blockKey
      flowKeys := s.flowKeys.map fun k => if stale k then none else k }

end State

/-! ## Between tokens -/

/-- Moves over blanks, comments and breaks. Outside of brackets a tab may not stand where a key could
begin, and a new line allows for a key. -/
def skipGap : Nat → State → State
  | 0, s => s
  | n + 1, s =>
    let c := s.cursor
    let c := if c.index = 0 && c.sees '\uFEFF' 0 then c.advance 1 else c
    let tabs := s.inFlow || !s.keyAllowed
    let c := (c.skipWhile fun x => x = ' ' || (tabs && x = '\t')).skipComment
    if c.atBreak 0 then
      skipGap n { s with cursor := c.skipBreak, keyAllowed := s.keyAllowed || !s.inFlow }
    else { s with cursor := c }

/-! ## Directives -/

def versionNumber (c : Cursor) : Option (Nat × Cursor) :=
  let (digits, c) := c.takeWhile Char.isDigit
  if digits = [] ∨ 9 < digits.length then none
  else some (digits.foldl (fun n x => 10 * n + (x.toNat - 48)) 0, c)

/-- The bytes of consecutive escapes of a tag as characters. -/
def escapedBytes? : Nat → List Char → Option (List UInt8 × Nat)
  | 0, _ => some ([], 0)
  | n + 1, l =>
    match l with
    | '%' :: a :: b :: r => do
      let (value, _) ← Text.hexNumber? 2 [a, b] 0
      let (bytes, count) ← escapedBytes? n r
      return (value.toUInt8 :: bytes, count + 3)
    | '%' :: _ => none
    | _ => some ([], 0)

/-- The characters of a tag after its handle. Commas and square brackets belong to it only between
angle brackets. -/
def tagSuffix (verbatim : Bool) : Nat → Cursor → List Char → Option (List Char × Cursor)
  | 0, _, _ => none
  | n + 1, c, text =>
    if c.sees '%' 0 then do
      let (bytes, length) ← escapedBytes? c.total c.rest
      let part ← String.fromUTF8? ⟨bytes.toArray⟩
      tagSuffix verbatim n (c.advance length) (part.toList.reverse ++ text)
    else if c.has (fun x => isWord x || ";/?:@&=+$.!~*'()".toList.contains x ||
        (verbatim && ",[]".toList.contains x)) 0 then
      tagSuffix verbatim n (c.advance 1) (c.rest.take 1 ++ text)
    else some (text.reverse, c)

/-- A tag handle: an exclamation mark, or a word between two of them. In a directive it has to end
with one. -/
def tagHandle (declared : Bool) (c : Cursor) : Option (List Char × Cursor) :=
  if !c.sees '!' 0 then none
  else
    let (word, c) := (c.advance 1).takeWhile isWord
    if c.sees '!' 0 then some ('!' :: word ++ ['!'], c.advance 1)
    else if declared && word ≠ [] then none
    else some ('!' :: word, c)

/-- The token of a directive, from after its percent sign up to the end of its line. -/
def directive (c : Cursor) : Option (Token × Cursor) := do
  let (name, c) := c.takeWhile isWord
  if name = [] || !c.atGap 0 then none
  let c := c.skipWhile isBlank
  let (token, c) ←
    if String.ofList name = "YAML" then do
      let (major, c) ← versionNumber c
      if !c.sees '.' 0 then none
      let (minor, c) ← versionNumber (c.advance 1)
      pure (Token.version major minor, c)
    else if String.ofList name = "TAG" then do
      let (handle, c) ← tagHandle true c
      if !c.has isBlank 0 then none
      let c := c.skipWhile isBlank
      let (text, c) ← tagSuffix true (c.total + 1) c []
      if text = [] || !c.atGap 0 then none
      pure (Token.handle (String.ofList handle) (String.ofList text), c)
    else none
  let c := (c.skipWhile isBlank).skipComment
  if !c.atLineEnd 0 then none
  return (token, c.skipBreak)

/-! ## Properties of nodes -/

def anchorName (c : Cursor) : Option (String × Cursor) :=
  let (name, c) := c.takeWhile isWord
  let ends := c.atGap 0 || c.has ("?:,]\x7d%@\x60".toList.contains ·) 0
  if name = [] || !ends then none else some (String.ofList name, c)

/-- A tag: between angle brackets, after a handle, or with the exclamation mark as its handle. A lone
exclamation mark is a suffix without a handle. -/
def tag (flow : Bool) (c : Cursor) : Option (Token × Cursor) := do
  let (token, c) ←
    if c.sees '<' 1 then do
      let (text, c) ← tagSuffix true (c.total + 1) (c.advance 2) []
      if text = [] || !c.sees '>' 0 then none
      pure (Token.tag "" (String.ofList text), c.advance 1)
    else do
      let (handle, c) ← tagHandle false c
      let (text, c) ← tagSuffix false (c.total + 1) c []
      if 1 < handle.length && handle.getLast? = some '!' then
        if text = [] then none
        pure (Token.tag (String.ofList handle) (String.ofList text), c)
      else
        let suffix := handle.drop 1 ++ text
        if suffix = [] then pure (Token.tag "" "!", c)
        else pure (Token.tag "!" (String.ofList suffix), c)
  if c.atGap 0 || (flow && c.sees ',' 0) then return (token, c) else none

/-! ## Steps -/

def atom (s : State) (read : Cursor → Option (Token × Cursor)) : Option State := do
  let s ← s.noteKey
  let (t, c) ← read s.cursor
  return { s.emit t with cursor := c, keyAllowed := false }

def mark (s : State) (t : Token) (keyAllowed : Bool) : State :=
  { s.emit t with cursor := s.cursor.advance 1, keyAllowed := keyAllowed }

def openFlow (s : State) (t : Token) : Option State := do
  let s ← s.noteKey
  return { mark s t true with flowKeys := none :: s.flowKeys }

def closeFlow (s : State) (t : Token) : Option State := do
  let s ← s.dropKey
  return { mark s t false with flowKeys := s.flowKeys.drop 1 }

def entry (s : State) : Option State := do
  if !s.inFlow && !s.keyAllowed then none
  let s ← (s.openBlock s.cursor.column s.tokens.size .blockSequence).dropKey
  return mark s .entry true

def explicitKey (s : State) : Option State := do
  if !s.inFlow && !s.keyAllowed then none
  let s ← (s.openBlock s.cursor.column s.tokens.size .blockMapping).dropKey
  return mark s .key (!s.inFlow)

def value (s : State) : Option State :=
  match s.possibleKey with
  | some k =>
    let s := (s.setKey none).emitAt k.position .key
    some (mark (s.openBlock k.column k.position .blockMapping) .value false)
  | none =>
    if !s.inFlow && !s.keyAllowed then none
    else
      let s := s.openBlock s.cursor.column s.tokens.size .blockMapping
      some (mark s .value (!s.inFlow))

def documentMark (s : State) (t : Token) : Option State := do
  let s ← (s.closeBlocks (-1)).dropKey
  return { s.emit t with cursor := s.cursor.advance 3, keyAllowed := false }

/-- The characters that cannot begin a plain scalar by themselves. -/
def isIndicator (x : Char) : Bool :=
  "-?:,[]\x7b\x7d#&*!|>'\"%@\x60".toList.contains x

def beginsPlain (s : State) : Bool :=
  let c := s.cursor
  (!c.atGap 0 && !c.has isIndicator 0) ||
    (c.sees '-' 0 && !c.has isBlank 1) ||
    (!s.inFlow && (c.sees '?' 0 || c.sees ':' 0) && !c.atGap 1)

/-- The next token after a gap; the flag says that the text has ended. -/
def dispatch (s : State) : Option (State × Bool) := do
  let c := s.cursor
  let flow := s.inFlow
  if c.atEnd then
    let s ← (s.closeBlocks (-1)).dropKey
    return (s.emit .streamEnd, true)
  let s ←
    if c.column = 0 && c.sees '%' 0 then do
      let s ← (s.closeBlocks (-1)).dropKey
      let (t, c) ← directive (c.advance 1)
      pure { s.emit t with cursor := c, keyAllowed := false }
    else if c.atMarker '-' then documentMark s .documentStart
    else if c.atMarker '.' then documentMark s .documentEnd
    else if c.sees '[' 0 then openFlow s .flowSequence
    else if c.sees '\x7b' 0 then openFlow s .flowMapping
    else if c.sees ']' 0 then closeFlow s .flowSequenceEnd
    else if c.sees '\x7d' 0 then closeFlow s .flowMappingEnd
    else if c.sees ',' 0 then (s.dropKey).map fun s => mark s .comma true
    else if c.sees '-' 0 && c.atGap 1 then entry s
    else if c.sees '?' 0 && (flow || c.atGap 1) then explicitKey s
    else if c.sees ':' 0 && (flow || c.atGap 1) then value s
    else if c.sees '*' 0 then
      atom s fun c => (anchorName (c.advance 1)).map fun (name, c) => (.alias name, c)
    else if c.sees '&' 0 then
      atom s fun c => (anchorName (c.advance 1)).map fun (name, c) => (.anchor name, c)
    else if c.sees '!' 0 then atom s (tag flow)
    else if (c.sees '|' 0 || c.sees '>' 0) && !flow then do
      let s ← s.dropKey
      let (t, c) ← blockScalar (c.sees '|' 0) s.indent c
      pure { s.emit t with cursor := c, keyAllowed := true }
    else if c.sees '\'' 0 then atom s (quotedScalar true)
    else if c.sees '"' 0 then atom s (quotedScalar false)
    else if beginsPlain s then do
      let s ← s.noteKey
      let (t, broken, c) ← plainScalar flow (s.indent + 1) s.cursor
      pure { s.emit t with cursor := c, keyAllowed := broken }
    else none
  return (s, false)

def step (s : State) : Option (State × Bool) := do
  let s ← (skipGap (s.cursor.total + 1) s).dropStale
  dispatch (s.closeBlocks s.cursor.column)

/-- The tokens up to the end of the text. -/
def run : Nat → State → Option (List Token)
  | 0, _ => none
  | n + 1, s =>
    match step s with
    | none => none
    | some (s, true) => some s.tokens.toList
    | some (s, false) => run n s

end Lexer

def Token.scan (text : String) : Option (List Token) :=
  if text.toList.all isAllowed then Lexer.run (text.length + 2) (Lexer.State.start text) else none

end RolloutPlan.Yaml
