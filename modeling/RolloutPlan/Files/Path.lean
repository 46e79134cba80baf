/-!
# Paths

A path is a text whose components are separated by slashes. It is kept as it is written: components
are not resolved against each other.

* `Path.parent`: the path of the directory that something stands in.
* `Path.withoutSlash`: a path without the slashes at its end.
* `Path.join`: a path that is written relative to another one.
-/

namespace RolloutPlan.Path

/-- The texts between slashes. There is always at least one. -/
def components (path : String) : List (List Char) := path.toList.splitOn '/'

def isIdle (c : List Char) : Bool := c = [] || c = ['.']

def ofComponents (l : List (List Char)) : String := String.ofList (['/'].intercalate l)

def isAbsolute (path : String) : Bool := path.toList.head? = some '/'

/-- Components without the last one that leads somewhere, and without idle ones at the end. It is
nothing if all are idle. -/
def parentComponents? (l : List (List Char)) : Option (List (List Char)) :=
  match l.reverse.dropWhile isIdle with
  | [] => none
  | _ :: rest => some (rest.dropWhile isIdle).reverse

/-- The path of the directory that something stands in. It is empty where the path does not say. A
point at the beginning counts as a directory. -/
def parent (path : String) : String :=
  match components path with
  | [] => ""
  | first :: rest =>
    if first = [] then
      match parentComponents? rest with
      | none => ""
      | some l => "/" ++ ofComponents l
    else
      match parentComponents? rest with
      | none => ""
      | some l => ofComponents (first :: l)

def withoutSlash (path : String) : String :=
  match path.toList.reverse.dropWhile (· = '/') with
  | [] => path
  | l => String.ofList l.reverse

def join (base path : String) : String :=
  if isAbsolute path || base = "" then path
  else if base.toList.getLast? = some '/' then base ++ path
  else base ++ "/" ++ path

end RolloutPlan.Path
