import RolloutPlan.Log.Directive

/-!
# Log filters

A filter is a list of directives between commas.

* `Filter.ofText?`: the filter of a text, unless one of its directives makes no sense.
* `Filter.choose`: the filter that is set, or one for the verbosity of the command line.
* `Filter.text`: the directives that do not depend on spans, and then those that do.
-/

namespace RolloutPlan.Log

/-- What is logged. A directive with a field alone counts on both sides. -/
structure Filter where
  statics : List Directive
  dynamics : List Directive
deriving DecidableEq

namespace Filter

/-- The filter of some directives; without any, errors are logged. -/
def ofDirectives (l : List Directive) : Filter :=
  let dynamics := l.filter Directive.isDynamic
  let statics := l.filter (fun d => !d.isDynamic) ++ dynamics.filter Directive.isStatic
  let insertAll (l : List Directive) : List Directive :=
    l.foldl (fun known d => Directive.insert d known) []
  if l = [] then ⟨[{ level := .error }], []⟩ else ⟨insertAll statics, insertAll dynamics⟩

def ofText? (text : String) : Option Filter := do
  let parts := (text.toList.splitOn ',').filter (· ≠ [])
  let directives ← parts.mapM fun part => Directive.ofText? (String.ofList part)
  return ofDirectives directives

/-- The filter for a number of requests to say more. -/
def ofVerbosity (count : Nat) : Filter := ofDirectives [{ level := Level.ofVerbosity count }]

def choose (directives : Option String) (count : Nat) : Filter :=
  (directives.bind ofText?).getD (ofVerbosity count)

def text (f : Filter) : String :=
  ",".intercalate ((f.statics ++ f.dynamics).map Directive.text)

end Filter

end RolloutPlan.Log
