import RolloutPlan.CommandLine.Invocation

/-!
# The program

Reads the files that the command line leads to and runs the steps of the command: it writes the drawing that
is asked for and prints what is to be said.
-/

namespace RolloutPlan.Program

/-- The cause of an error of the operating system. -/
def ioError : IO.Error → IoError
  | .noFileOrDirectory .. => .notFound
  | .inappropriateType .. => .isADirectory
  | e => .other (toString e)

def readText (path : String) : IO (Except IoError String) := do
  if path = "" then return .error .notFound
  try
    let bytes ← IO.FS.readBinFile path
    match String.fromUTF8? bytes with
    | some text => return .ok text
    | none => return .error .invalidText
  catch e => return .error (ioError e)

/-- Reads the files of an invocation. Each round knows the paths that the round before led to. -/
def readFiles (i : Invocation) : IO Reading := do
  let mut known : List (String × Except IoError String) := []
  for _ in [0:3] do
    let read : Reading := fun path => (known.lookup path).getD (.error .notFound)
    for path in i.paths read do
      if (known.lookup path).isNone then
        known := (path, ← readText path) :: known
  let found := known
  return fun path => (found.lookup path).getD (.error .notFound)

def writeText (path text : String) : IO (Except IoError Unit) := do
  try
    IO.FS.writeFile path text
    return .ok ()
  catch e => return .error (ioError e)

/-- Runs a command on the real files. -/
def runSteps : Run → IO (Except Failure Unit)
  | .finish result => return result
  | .print text next => do
    IO.print text
    runSteps next
  | .write path text next => do runSteps (next (← writeText path text))

/-- Whether a report is coloured: not if it goes to a file. -/
def isColoured : IO Bool := do
  if (← IO.getEnv "NO_COLOR").isSome then return false
  (← IO.getStdout).isTty

/-- The text of a failure, its outermost context first. -/
def failureText (f : Failure) : String :=
  match f.messages with
  | [] => "Error"
  | message :: [] => "Error: " ++ message
  | message :: causes =>
    "Error: " ++ message ++ "\n\nCaused by:\n" ++
      "\n".intercalate (causes.map fun cause => "    " ++ cause)

def runInvocation (i : Invocation) : IO UInt32 := do
  match ← runSteps (i.run (← readFiles i) (← isColoured)) with
  | .ok () => return 0
  | .error f =>
    IO.eprintln (failureText f)
    return 1

def usageText : String :=
  "Usage: rollgraph [--config <FILE>] [-v]... <COMMAND>\n\n" ++
    "Commands:\n" ++
    "  validate [-t <FILE>]\n" ++
    "  graph [-t <FILE>] [-e <GROUP>]... [-s <GROUP>] [--dot <FILE>] [--json]\n" ++
    "  help [COMMAND]\n"

end RolloutPlan.Program

open RolloutPlan in
def main (arguments : List String) : IO UInt32 := do
  match Invocation.ofArguments arguments with
  | .error .misuse =>
    IO.eprint Program.usageText
    return 2
  | .error .help =>
    IO.print Program.usageText
    return 0
  | .error .version =>
    IO.print versionText
    return 0
  | .ok i => Program.runInvocation i
