import RolloutPlan.Failure

/-!
# Running a command

Once a command has read its files, it is a sequence of steps: it prints, it writes files, and it ends. What
comes after a write depends on whether the text could be written.

* `Run`: the steps of a command.
* `Effect`, `Outcome`: what a command does that can be seen from outside, in its order, and how it ends.
* `Run.performOn`, `Run.perform`: a command among files.
-/

namespace RolloutPlan

/-- What a command does, step by step. -/
inductive Run where
  | finish (result : Except Failure Unit)
  | print (text : String) (next : Run)
  | write (path text : String) (next : Except IoError Unit → Run)

/-- What a command does that can be seen from outside. -/
inductive Effect where
  | printed (text : String)
  | written (path text : String)
deriving DecidableEq

namespace Effect

def printed? : Effect → Option String
  | .printed text => some text
  | .written _ _ => none

end Effect

/-- How a command ended, the files after it, and what it did, one after the other. -/
structure Outcome where
  result : Except Failure Unit
  files : Files
  effects : List Effect := []

namespace Outcome

/-- An outcome with an effect in front of its others. -/
def behind (e : Effect) (o : Outcome) : Outcome := { o with effects := e :: o.effects }

@[simp] theorem result_behind (e : Effect) (o : Outcome) : (o.behind e).result = o.result := rfl

@[simp] theorem effects_behind (e : Effect) (o : Outcome) : (o.behind e).effects = e :: o.effects := rfl

/-- The texts that were printed. -/
def printed (o : Outcome) : List String := o.effects.filterMap Effect.printed?

def output (o : Outcome) : String := String.join o.printed

end Outcome

namespace Run

def failed (f : Failure) : Run := .finish (.error f)

def succeeded : Run := .finish (.ok ())

def performOn (r : Run) (host : Host) (files : Files) : Outcome :=
  match r with
  | .finish result => ⟨result, files, []⟩
  | .print text next => (next.performOn host files).behind (.printed text)
  | .write path text next =>
    match files.write host path text with
    | .ok files => ((next (.ok ())).performOn host files).behind (.written path text)
    | .error e => (next (.error e)).performOn host files

/-- A command on a host that refuses nothing. -/
def perform (r : Run) (files : Files) : Outcome := r.performOn {} files

end Run

end RolloutPlan
