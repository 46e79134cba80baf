import RolloutPlan.Log.FieldValue
import RolloutPlan.Log.Level
import RolloutPlan.Text.Alphanumeric
import RolloutPlan.Text.Blank

/-!
# Directives of a log filter

A directive sets a level for a target, for a span, for spans with a field, or for everything:
`target[span{field=value}]=level`, where every part may be left out. A name alone is a level if
there is one of that name, and otherwise a target of which everything is logged.

* `Directive`: what a directive says.
* `Directive.ofText?`: the directive of a text without commas.
* `Directive.text`: its text.
* `Directive.precision`, `Directive.insert`: directives that say more about their place come first.
-/

namespace RolloutPlan.Log

/-- A field that a span has to have, with the value that it has to have. -/
structure FieldMatch where
  name : String
  value : Option String
deriving DecidableEq

namespace FieldMatch

/-- A name, and what stands between the first equals sign and a second one. -/
def ofText (text : String) : FieldMatch :=
  match text.toList.splitOn '=' with
  | name :: value :: _ =>
    ⟨String.ofList name, some (FieldValue.canonical (String.ofList value))⟩
  | _ => ⟨text, none⟩

def text (m : FieldMatch) : String :=
  match m.value with
  | some value => m.name ++ "=" ++ value
  | none => m.name

end FieldMatch

/-- A level with the place that it is for. -/
structure Directive where
  target : Option String := none
  span : Option String := none
  field : Option FieldMatch := none
  level : Level := .trace
deriving DecidableEq

namespace Directive

/-! ## Reading -/

/-- The bytes of a text from one place to another, if they are a text. -/
def cut (text : String) (start stop : Nat) : Option String :=
  String.fromUTF8? (text.toUTF8.extract start stop)

/-- The rest of a text from a place on. -/
def rest (text : String) (start : Nat) : Option String := cut text start text.utf8ByteSize

/-- What is being read, with the place where it began. -/
inductive Part where
  | start
  | name (start : Nat)
  | span (start : Nat)
  | field (start : Nat)
  | afterField
  | afterSpan
  | level (start : Nat)

def isFirst (c : Char) : Bool := c = '-' || c = ':' || c = '_' || Text.isAlphanumeric c

/-- Reads the character at a place. The parts are cut out of the text by the places of the marks
between them. -/
def step (text : String) (d : Directive) (place : Nat) (c : Char) :
    Part → Option (Directive × Part)
  | .start =>
    if c = '[' then some (d, .span (place + 1))
    else if isFirst c then some (d, .name place)
    else none
  | .name start =>
    if c = '=' then do return ({ d with target := ← cut text start place }, .level (place + 1))
    else if c = '[' then do return ({ d with target := ← cut text start place }, .span (place + 1))
    else some (d, .name start)
  | .span start =>
    if c = ']' then do return ({ d with span := ← cut text start place }, .afterSpan)
    else if c = '\x7b' then do
      let name ← cut text start place
      return ({ d with span := if name = "" then none else some name }, .field (place + 1))
    else some (d, .span start)
  | .field start =>
    if c = '\x7d' then do
      let field ← cut text start place
      if field = "" then none
      else return ({ d with field := some (FieldMatch.ofText field) }, .afterField)
    else some (d, .field start)
  | .afterField => if c = ']' then some (d, .afterSpan) else none
  | .afterSpan => if c = '=' then some (d, .level (place + 1)) else none
  | .level start => some (d, .level start)

def finish (text : String) (d : Directive) : Part → Option Directive
  | .name start => do
    let name ← rest text start
    match Level.ofText? name with
    | some level => return { d with level }
    | none => return { d with target := some name }
  | .level start => do
    let name ← rest text start
    if name = "" then return d
    return { d with level := ← Level.ofText? name }
  | .afterSpan => some d
  | _ => none

def walk (text : String) : Directive → Part → Nat → List Char → Option Directive
  | d, part, _, [] => finish text d part
  | d, part, place, c :: l => do
    let (d, part) ← step text d place c part
    walk text d part (place + c.utf8Size) l

/-- The directive of a text without commas. Places are counted from the first character that is not
blank, and are taken in the text as it stands. -/
def ofText? (text : String) : Option Directive :=
  walk text {} .start 0 (Text.trim text.toList)

/-! ## Writing -/

def text (d : Directive) : String :=
  let span := d.span.getD "" ++ (d.field.map fun m => "\x7b" ++ m.text ++ "\x7d").getD ""
  let place := d.target.getD "" ++
    if d.span.isSome || d.field.isSome then "[" ++ span ++ "]" else ""
  let bare := d.target.isNone && d.span.isNone && d.field.isNone
  place ++ (if bare then "" else "=") ++ d.level.text

/-! ## Order -/

/-- Whether a directive depends on the spans that something is logged in. -/
def isDynamic (d : Directive) : Bool := d.span.isSome || d.field.isSome

/-- Whether a directive can be decided without knowing a span or a value. -/
def isStatic (d : Directive) : Bool := d.span.isNone && d.field.all (·.value.isNone)

def compareOption {α : Type} (compare : α → α → Ordering) : Option α → Option α → Ordering
  | none, none => .eq
  | none, some _ => .lt
  | some _, none => .gt
  | some a, some b => compare a b

/-- A field with a value says more than one without. -/
def compareField (a b : FieldMatch) : Ordering :=
  (compare a.value.isSome.toNat b.value.isSome.toNat).then
    ((compare a.name b.name).then (compareOption compare a.value b.value))

/-- Compares how much directives say about the place that they are for. Longer targets say more,
and of two targets of one length the later one comes first. -/
def precision (a b : Directive) : Ordering :=
  (compareOption compare (a.target.map String.utf8ByteSize) (b.target.map String.utf8ByteSize)).then
    ((compare a.span.isSome.toNat b.span.isSome.toNat).then
      ((compare a.field.isSome.toNat b.field.isSome.toNat).then
        ((compareOption compare a.target b.target).then
          ((compareOption compare a.span b.span).then (compareOption compareField a.field b.field)))))

/-- Adds a directive at its place, the one that says most first. A directive for a place replaces
what was said about it before. -/
def insert (d : Directive) : List Directive → List Directive
  | [] => [d]
  | e :: l =>
    match precision d e with
    | .gt => d :: e :: l
    | .eq => d :: l
    | .lt => e :: insert d l

end Directive

end RolloutPlan.Log
