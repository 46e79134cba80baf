import RolloutPlan.Text.Hexadecimal

/-!
# Tokens of a settings file

A settings file is a TOML document that consists of assignments. What can stand in it are bare keys,
strings, a few marks, and the ends of lines; blanks and comments only separate.

* `Token`: these parts.
* `Token.scan`: the tokens of a text.
-/

namespace RolloutPlan.Toml

/-- A part of a document. -/
inductive Token where
  | bare (key : String)
  /-- A string on one line, which can be a key or a value. -/
  | text (s : String)
  /-- A string between tripled quotes, which can only be a value. -/
  | longText (s : String)
  | equals
  | comma
  | opening
  | closing
  | newline
deriving DecidableEq

/-! ## Strings -/

/-- A character that may not stand in a document as it is. Tabs and ends of lines are treated
separately. -/
def isControl (c : Char) : Bool := c.toNat < 0x20 || c.toNat = 0x7F

/-- Whether a character may stand in a line as it is. -/
def isLineChar (c : Char) : Bool := c = '\t' || !isControl c

def isBlank (c : Char) : Bool := c = ' ' || c = '\t'

def afterNewline? : List Char → Option (List Char)
  | '\n' :: l => some l
  | '\r' :: '\n' :: l => some l
  | _ => none

/-- The character that an escape stands for, from after the backslash, and the text after it. -/
def escape? : List Char → Option (Char × List Char)
  | '"' :: l => some ('"', l)
  | '\\' :: l => some ('\\', l)
  | 'b' :: l => some ('\x08', l)
  | 't' :: l => some ('\t', l)
  | 'n' :: l => some ('\n', l)
  | 'f' :: l => some ('\x0c', l)
  | 'r' :: l => some ('\r', l)
  | 'e' :: l => some ('\x1b', l)
  | 'x' :: l => Text.hexCharacter? 2 l
  | 'u' :: l => Text.hexCharacter? 4 l
  | 'U' :: l => Text.hexCharacter? 8 l
  | _ => none

/-- A string on one line, from after its opening quote. Only double quotes have escapes. -/
def lineString (quote : Char) : Nat → List Char → Option (List Char × List Char)
  | 0, _ => none
  | _ + 1, [] => none
  | n + 1, c :: l =>
    if c = quote then some ([], l)
    else if c = '\\' && quote = '"' then do
      let (c, l) ← escape? l
      let (text, l) ← lineString quote n l
      return (c :: text, l)
    else if isLineChar c then (lineString quote n l).map fun (text, l) => (c :: text, l)
    else none

/-- The text after the blanks and the ends of lines that an escaped end of a line stands before. -/
def skipGap : List Char → List Char
  | '\r' :: '\n' :: l => skipGap l
  | c :: l => if isBlank c || c = '\n' then skipGap l else c :: l
  | [] => []

/-- The end of a string between tripled quotes: the quotes that still belong to the string, which can
be two, and the text after it. -/
def longEnd? (quote : Char) (l : List Char) : Option (List Char × List Char) :=
  let quotes := (l.takeWhile (· = quote)).length
  if quotes < 3 then none
  else
    let inside := min 2 (quotes - 3)
    some (List.replicate inside quote, l.drop (inside + 3))

/-- A string between tripled quotes, from after the opening ones. -/
def longString (quote : Char) : Nat → List Char → Option (List Char × List Char)
  | 0, _ => none
  | n + 1, l =>
    match longEnd? quote l with
    | some found => some found
    | none =>
      match l with
      | [] => none
      | '\r' :: '\n' :: l => (longString quote n l).map fun (text, l) => ('\r' :: '\n' :: text, l)
      | c :: l =>
        if c = '\\' && quote = '"' then
          match afterNewline? (l.dropWhile isBlank) with
          | some l => longString quote n (skipGap l)
          | none => do
            let (c, l) ← escape? l
            let (text, l) ← longString quote n l
            return (c :: text, l)
        else if isLineChar c || c = '\n' then
          (longString quote n l).map fun (text, l) => (c :: text, l)
        else none

/-- A string from its opening quote on. An end of a line directly after tripled quotes does not
belong to it. -/
def string? (quote : Char) (l : List Char) : Option (Token × List Char) :=
  if l.take 3 = List.replicate 3 quote then do
    let body := l.drop 3
    let (text, l) ← longString quote (l.length + 1) ((afterNewline? body).getD body)
    return (.longText (String.ofList text), l)
  else do
    let (text, l) ← lineString quote (l.length + 1) (l.drop 1)
    return (.text (String.ofList text), l)

/-! ## Tokens -/

def isBare (c : Char) : Bool := c.isAlphanum || c = '-' || c = '_'

/-- The text from the end of the line of a comment on. -/
def skipComment? : List Char → Option (List Char)
  | [] => some []
  | c :: l =>
    if (afterNewline? (c :: l)).isSome then some (c :: l)
    else if isLineChar c then skipComment? l
    else none

def mark? (c : Char) : Option Token :=
  match c with
  | '=' => some .equals
  | ',' => some .comma
  | '[' => some .opening
  | ']' => some .closing
  | _ => none

namespace Token

/-- The tokens of a text of at most `n` characters. -/
def scanUpTo : Nat → List Char → Option (List Token)
  | _, [] => some []
  | 0, _ :: _ => none
  | n + 1, c :: l =>
    if isBlank c then scanUpTo n l
    else if c = '#' then do scanUpTo n (← skipComment? l)
    else if c = '"' || c = '\'' then do
      let (token, l) ← string? c (c :: l)
      return token :: (← scanUpTo n l)
    else if isBare c then do
      let key := (c :: l).takeWhile isBare
      return .bare (String.ofList key) :: (← scanUpTo n (l.drop (key.length - 1)))
    else
      match mark? c with
      | some token => do return token :: (← scanUpTo n l)
      | none => do
        let l ← afterNewline? (c :: l)
        return .newline :: (← scanUpTo n l)

def scan (text : String) : Option (List Token) :=
  let l := text.toList
  scanUpTo l.length (if l.head? = some '\ufeff' then l.drop 1 else l)

end Token

end RolloutPlan.Toml
