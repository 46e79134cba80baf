import RolloutPlan.Files.Path
import RolloutPlan.Sorted

/-!
# Files

What reading and writing files does, as far as a rollout can see it.

* `IoError`: why a file cannot be read or written.
* `Files`: the files under the working directory. A directory is there because of what stands in it.
* `Files.resolve`: where a path leads.
* `Host`: what may speak against a write besides the path.
* `Files.read`, `Files.write`: a whole file at once. A write that fails changes nothing.
-/

namespace RolloutPlan

/-- Why a file cannot be read or written. -/
inductive IoError where
  | notFound
  | notADirectory
  | isADirectory
  | nameTooLong
  /-- A path with a character that no path may have. -/
  | invalidPath
  /-- The bytes are not a text. -/
  | invalidText
  | other (message : String)
deriving DecidableEq

namespace IoError

def message : IoError → String
  | .notFound => "No such file or directory (os error 2)"
  | .notADirectory => "Not a directory (os error 20)"
  | .isADirectory => "Is a directory (os error 21)"
  | .nameTooLong => "File name too long (os error 36)"
  | .invalidPath => "file name contained an unexpected NUL byte"
  | .invalidText => "stream did not contain valid UTF-8"
  | .other message => message

/-- Whether reading fails although there is something at the path. -/
def isPresent : IoError → Bool
  | .isADirectory => true
  | .invalidText => true
  | .other _ => true
  | _ => false

end IoError

/-- Reading a file by its path. -/
abbrev Reading := String → Except IoError String

/-- The place of a file below the working directory. -/
abbrev Place := List (List Char)

/-- The files under the working directory. A file without a text has bytes that are none. -/
structure Files where
  entries : List (Place × Option String) := []

namespace Files

/-- What stands at a place. -/
inductive Entry where
  | file (text : Option String)
  | directory
  | nothing

def entry (f : Files) (p : Place) : Entry :=
  match f.entries.lookup p with
  | some text => .file text
  | none => if p = [] || f.entries.any fun e => p.isPrefixOf e.1 then .directory else .nothing

def put (f : Files) (p : Place) (text : Option String) : Files :=
  ⟨(p, text) :: f.entries.filter (·.1 ≠ p)⟩

/-- Where a path leads. -/
inductive Target where
  | place (p : Place)
  /-- A directory above the working directory. -/
  | above (levels : Nat)

/-- The longest name of a file. -/
def maxName : Nat := 255

def maxPath : Nat := 4095

/-- Whether a component can be taken from a place. -/
def enter (f : Files) (p : Place) : Except IoError Unit :=
  match f.entry p with
  | .directory => .ok ()
  | .file _ => .error .notADirectory
  | .nothing => .error .notFound

/-- Follows components one by one. Whatever has a component after it has to be a directory. -/
def follow (f : Files) : Target → List (List Char) → Except IoError Target
  | t, [] => .ok t
  | .above levels, c :: l =>
    if Path.isIdle c then follow f (.above levels) l
    else if c = ['.', '.'] then follow f (.above (levels + 1)) l
    else .error .notFound
  | .place p, c :: l => do
    f.enter p
    if Path.isIdle c then follow f (.place p) l
    else if c = ['.', '.'] then
      match p with
      | [] => follow f (.above 1) l
      | _ :: _ => follow f (.place p.dropLast) l
    else if (String.ofList c).utf8ByteSize > maxName then .error .nameTooLong
    else follow f (.place (p ++ [c])) l

def resolve (f : Files) (path : String) : Except IoError Target :=
  if path.toList.contains '\x00' then .error .invalidPath
  else if path.utf8ByteSize > maxPath then .error .nameTooLong
  else if path = "" then .error .notFound
  else if Path.isAbsolute path then f.follow (.above 1) (Path.components path)
  else f.follow (.place []) (Path.components path)

def read (f : Files) (path : String) : Except IoError String := do
  match ← f.resolve path with
  | .above _ => .error .isADirectory
  | .place p =>
    match f.entry p with
    | .nothing => .error .notFound
    | .directory => .error .isADirectory
    | .file (some text) => .ok text
    | .file none => .error .invalidText

end Files

/-- What the files are kept on. It may refuse to write a text to a place that a path leads to: nobody may
change the file, or there is no room for the text. -/
structure Host where
  refusal? : Files → Place → String → Option IoError := fun _ _ _ => none

namespace Files

/-- Writes a text in place of what the file held before. A path with a slash at its end names a
directory. -/
def write (f : Files) (host : Host) (path text : String) : Except IoError Files := do
  match ← f.resolve (Path.withoutSlash path) with
  | .above _ => .error .isADirectory
  | .place p =>
    match f.entry p with
    | .directory => .error .isADirectory
    | _ =>
      if Path.withoutSlash path = path then
        match host.refusal? f p text with
        | some e => .error e
        | none => .ok (f.put p (some text))
      else .error .isADirectory

end Files

end RolloutPlan
