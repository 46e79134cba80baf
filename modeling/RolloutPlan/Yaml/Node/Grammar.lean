import RolloutPlan.Yaml.Node

/-!
# Documents of a token stream

The grammar of documents. A node has at most one anchor and one tag before it; what is missing where
a node could stand is a blank scalar. The state of reading carries the names of the anchors: a new
anchor gets the number of different names so far, and of several nodes with one number the one that
begins last has it.

* `Grammar.node`: one node.
* `Document.ofTokens?`: the only document of a stream. A stream without any has a blank root.
-/

namespace RolloutPlan.Yaml

namespace Grammar

/-- What is known after a part of the tokens. -/
structure State where
  tokens : List Token
  /-- The numbers of the anchor names of this document. -/
  names : List (String × Nat)
  /-- For each anchor of this document, the latest first, its number. -/
  numbers : List Nat
  /-- The anchored nodes, each with its place in the order of the anchors. -/
  anchored : List (Nat × Node)
  size : Nat
  /-- The tag handles of this document and the texts that they stand for. -/
  handles : List (String × String)

/-- Reading with a state, which may fail. -/
abbrev Reader := StateT State Option

def peek : Reader Token := do
  match (← get).tokens with
  | t :: _ => return t
  | [] => failure

def skip : Reader Unit :=
  modify fun s => { s with tokens := s.tokens.drop 1 }

/-- Moves over the next token if it is a given one. -/
def accept (t : Token) : Reader Bool := do
  if (← peek) = t then
    skip
    return true
  else return false

def count (n : Nat) : Reader Unit :=
  modify fun s => { s with size := s.size + n }

/-- Gives a number to an anchor and its place in the order of the anchors. -/
def declare (name : String) : Reader Nat := do
  let s ← get
  let number := s.names.length
  let names := (name, number) :: s.names.filter (·.1 ≠ name)
  set { s with names := names, numbers := number :: s.numbers }
  return s.numbers.length

def keep (place : Option Nat) (n : Node) : Reader Node := do
  match place with
  | some p => modify fun s => { s with anchored := (p, n) :: s.anchored }
  | none => pure ()
  return n

/-- The tag that a handle and a suffix make. -/
def fullTag (handle suffix : String) : Reader String := do
  if handle = "" then return suffix
  else
    match (← get).handles.find? (·.1 = handle) with
    | some (_, text) => return text ++ suffix
    | none => failure

/-- The anchor and the tag before a node, in either order. -/
def properties : Reader (Option String × Option String) := do
  match ← peek with
  | .anchor a =>
    skip
    match ← peek with
    | .tag h x =>
      skip
      return (some a, some (← fullTag h x))
    | _ => return (some a, none)
  | .tag h x =>
    skip
    match ← peek with
    | .anchor a =>
      skip
      return (some a, some (← fullTag h x))
    | _ => return (none, some (← fullTag h x))
  | _ => return (none, none)

def blank : Reader Node := do
  count 1
  return .scalar (.blank none)

/-- A node with nothing but an anchor or a tag. -/
def bare (place : Option Nat) (tag : Option String) : Reader Node := do
  if place.isSome || tag.isSome then
    count 1
    keep place (.scalar (.blank tag))
  else failure

mutual

/-- A node. In a block it may be a block collection; after a key or colon also a sequence that is not
indented. -/
def node : Nat → Bool → Bool → Reader Node
  | 0, _, _ => failure
  | n + 1, block, indentless => do
    match ← peek with
    | .alias name =>
      skip
      count 1
      match (← get).names.find? (·.1 = name) with
      | some (_, number) => return .alias number
      | none => failure
    | _ =>
      let (anchor, tag) ← properties
      let place ← match anchor with
        | some name => some <$> declare name
        | none => pure none
      match ← peek with
      | .scalar text style =>
        skip
        count 1
        keep place (.scalar ⟨text, style, if tag = some "!" then none else tag⟩)
      | .entry =>
        if indentless then
          count 2
          keep place (.sequence tag (← plainEntries n))
        else bare place tag
      | .flowSequence =>
        skip
        count 2
        keep place (.sequence tag (← flowItems n true))
      | .flowMapping =>
        skip
        count 2
        keep place (.mapping tag (← flowEntries n true))
      | .blockSequence =>
        if block then
          skip
          count 2
          keep place (.sequence tag (← blockEntries n))
        else bare place tag
      | .blockMapping =>
        if block then
          skip
          count 2
          keep place (.mapping tag (← blockPairs n))
        else bare place tag
      | _ => bare place tag

def blockEntries : Nat → Reader (List Node)
  | 0 => failure
  | n + 1 => do
    match ← peek with
    | .entry =>
      skip
      let item ← match ← peek with
        | .entry => blank
        | .blockEnd => blank
        | _ => node n true false
      return item :: (← blockEntries n)
    | .blockEnd =>
      skip
      return []
    | _ => failure

/-- The entries of a sequence that is not indented; it ends before the first other token. -/
def plainEntries : Nat → Reader (List Node)
  | 0 => failure
  | n + 1 => do
    if ← accept .entry then
      let item ← match ← peek with
        | .entry => blank
        | .key => blank
        | .value => blank
        | .blockEnd => blank
        | _ => node n true false
      return item :: (← plainEntries n)
    else return []

def blockPart : Nat → Reader Node
  | 0 => failure
  | n + 1 => do
    match ← peek with
    | .key => blank
    | .value => blank
    | .blockEnd => blank
    | _ => node n true true

def blockPairs : Nat → Reader (List (Node × Node))
  | 0 => failure
  | n + 1 => do
    match ← peek with
    | .key =>
      skip
      let k ← blockPart n
      let v ← if ← accept .value then blockPart n else blank
      return (k, v) :: (← blockPairs n)
    | .blockEnd =>
      skip
      return []
    | _ => failure

/-- The items of a sequence in brackets. A key makes a mapping of one pair. -/
def flowItems : Nat → Bool → Reader (List Node)
  | 0, _ => failure
  | n + 1, first => do
    if ← accept .flowSequenceEnd then return []
    else
      if !first then
        if !(← accept .comma) then failure
      match ← peek with
      | .key =>
        skip
        count 2
        let k ← match ← peek with
          | .value =>
            skip
            blank
          | .comma =>
            skip
            blank
          | .flowSequenceEnd =>
            skip
            blank
          | _ => node n false false
        let v ← if ← accept .value then
            match ← peek with
            | .comma => blank
            | .flowSequenceEnd => blank
            | _ => node n false false
          else blank
        return .mapping none [(k, v)] :: (← flowItems n false)
      | .flowSequenceEnd =>
        skip
        return []
      | _ => return (← node n false false) :: (← flowItems n false)

/-- A key or value of a mapping in braces. -/
def flowPart : Nat → Reader Node
  | 0 => failure
  | n + 1 => do
    match ← peek with
    | .value => blank
    | .comma => blank
    | .flowMappingEnd => blank
    | _ => node n false false

/-- The pairs of a mapping in braces. A node that is not announced as a key has no value. -/
def flowEntries : Nat → Bool → Reader (List (Node × Node))
  | 0, _ => failure
  | n + 1, first => do
    if ← accept .flowMappingEnd then return []
    else
      if !first then
        if !(← accept .comma) then failure
      match ← peek with
      | .key =>
        skip
        let k ← flowPart n
        let v ← if ← accept .value then
            match ← peek with
            | .comma => blank
            | .flowMappingEnd => blank
            | _ => node n false false
          else blank
        return (k, v) :: (← flowEntries n false)
      | .flowMappingEnd =>
        skip
        return []
      | _ =>
        let k ← node n false false
        return (k, ← blank) :: (← flowEntries n false)

end

/-! ## Documents -/

/-- The directives before a document: one version at most, and every handle once. -/
def directives : Nat → Bool → List (String × String) → Reader (List (String × String))
  | 0, _, _ => failure
  | n + 1, versioned, handles => do
    match ← peek with
    | .version major minor =>
      if versioned || major ≠ 1 || (minor ≠ 1 && minor ≠ 2) then failure
      else
        skip
        directives n true handles
    | .handle name text =>
      if handles.any (·.1 = name) then failure
      else
        skip
        directives n versioned (handles ++ [(name, text)])
    | _ => return handles ++ [("!", "!"), ("!!", "tag:yaml.org,2002:")]

/-- The root of a document, or a blank scalar if nothing stands between the marks. -/
def root (fuel : Nat) : Reader Node := do
  match ← peek with
  | .version _ _ => blank
  | .handle _ _ => blank
  | .documentStart => blank
  | .documentEnd => blank
  | .streamEnd => blank
  | _ => node fuel true false

def skipEnds : Nat → Reader Unit
  | 0 => return
  | n + 1 => do if ← accept .documentEnd then skipEnds n

/-- The root of the only document. It may begin without a mark if it has no directives, and nothing
but marks for its end may follow it. -/
def onlyRoot (fuel : Nat) : Reader (Option Node) := do
  match ← peek with
  | .streamEnd => return none
  | _ =>
    let explicit := match ← peek with
      | .version _ _ => true
      | .handle _ _ => true
      | .documentStart => true
      | _ => false
    let handles ← directives fuel false []
    modify fun s => { s with handles := handles }
    let r ←
      if explicit then do
        if ← accept .documentStart then root fuel else failure
      else node fuel true false
    skipEnds fuel
    match ← peek with
    | .streamEnd => return some r
    | _ => failure

end Grammar

def Document.ofTokens? (tokens : List Token) : Option Document := do
  let start : Grammar.State := ⟨tokens, [], [], [], 0, []⟩
  let (r, s) ← (Grammar.onlyRoot (4 * tokens.length + 8)).run start
  let latest (number : Nat) : Option Nat :=
    (s.numbers.findIdx? (· = number)).map (s.numbers.length - 1 - ·)
  let find (number : Nat) : Option (Nat × Node) := do
    let place ← latest number
    let (_, n) ← s.anchored.find? (·.1 = place)
    return (number, n)
  let numbers := s.numbers.eraseDups
  return ⟨r.getD (.scalar (.blank none)), numbers.filterMap find, s.size⟩

end RolloutPlan.Yaml
