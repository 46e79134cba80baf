/-!
# Log levels

* `Level`: how much is logged, from nothing to everything.
* `Level.ofText?`: the level of a name or a number.
* `Level.ofVerbosity`: the level for a number of requests to say more.
-/

namespace RolloutPlan.Log

/-- How much is logged. -/
inductive Level where
  | off
  | error
  | warn
  | info
  | debug
  | trace
deriving DecidableEq

namespace Level

def text : Level → String
  | .off => "off"
  | .error => "error"
  | .warn => "warn"
  | .info => "info"
  | .debug => "debug"
  | .trace => "trace"

def all : List Level := [.off, .error, .warn, .info, .debug, .trace]

def number? (text : String) : Option Nat :=
  let l := text.toList
  let digits := if l.head? = some '+' then l.drop 1 else l
  if digits ≠ [] && digits.all Char.isDigit then
    some (digits.foldl (fun n c => 10 * n + (c.toNat - 48)) 0)
  else none

def ofText? (text : String) : Option Level :=
  match (number? text).bind fun n => all[n]? with
  | some level => some level
  | none => all.find? fun level => level.text = text.map Char.toLower

def ofVerbosity : Nat → Level
  | 0 => .warn
  | 1 => .info
  | 2 => .debug
  | _ => .trace

end Level

end RolloutPlan.Log
