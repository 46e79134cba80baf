/-!
# Flags of a command line

Arguments are read one by one. A flag has a long name and may have a short one; several short flags
can stand together behind one dash. The value of a flag follows it, directly or as the next argument.

* `Flag`: a flag and what follows it.
* `Interruption`: why reading ends before the last argument.
* `Flag.readAll`: the flags that are given, up to the name of a command.
-/

namespace RolloutPlan.CommandLine

/-- What a flag means. -/
inductive FlagKind where
  /-- It stands alone. -/
  | switch
  /-- A text follows. -/
  | text
  /-- A text follows that is not empty. -/
  | path
  | help
  | version
deriving DecidableEq

/-- A flag of a command line. -/
structure Flag where
  long : String
  short : Option Char := none
  kind : FlagKind
  repeatable : Bool := false
deriving DecidableEq

/-- A flag as it is given, with the text that follows it. -/
structure Given where
  flag : Flag
  value : String
deriving DecidableEq

/-- Why reading ends before the last argument. -/
inductive Interruption where
  /-- The arguments do not make sense. -/
  | misuse
  | help
  | version
deriving DecidableEq

/-- The flags that are given, and the arguments from the name of a command on. -/
structure Arguments where
  given : List Given := []
  rest : List String := []

namespace Flag

def takesValue (f : Flag) : Bool := f.kind = .text || f.kind = .path

def add (known : List Given) (f : Flag) (value : String) : Except Interruption (List Given) :=
  if f.kind = .help then .error .help
  else if f.kind = .version then .error .version
  else if f.kind = .path && value = "" then .error .misuse
  else if !f.repeatable && known.any (·.flag = f) then .error .misuse
  else .ok (known ++ [⟨f, value⟩])

/-- Whether an argument can only be a flag. A dash alone is a text. -/
def isFlagLike (argument : String) : Bool :=
  match argument.toList with
  | '-' :: _ :: _ => true
  | _ => false

/-- What an argument leaves open. -/
inductive Step where
  | complete (known : List Given)
  /-- The next argument is the value of a flag. -/
  | awaiting (known : List Given) (f : Flag)

/-- Reads a long flag, from after its dashes. -/
def readLong (flags : List Flag) (known : List Given) (l : List Char) :
    Except Interruption Step :=
  let name := String.ofList (l.takeWhile (· ≠ '='))
  match flags.find? (·.long = name), l.dropWhile (· ≠ '=') with
  | none, _ => .error .misuse
  | some f, [] => if f.takesValue then .ok (.awaiting known f) else .complete <$> add known f ""
  | some f, _ :: value =>
    if f.takesValue then .complete <$> add known f (String.ofList value) else .error .misuse

def readShort (flags : List Flag) : List Given → List Char → Except Interruption Step
  | known, [] => .ok (.complete known)
  | known, c :: l =>
    match flags.find? (·.short = some c) with
    | none => .error .misuse
    | some f =>
      if f.takesValue then
        match l with
        | [] => .ok (.awaiting known f)
        | '=' :: value => .complete <$> add known f (String.ofList value)
        | value => .complete <$> add known f (String.ofList value)
      else do readShort flags (← add known f "") l

def readOne (flags : List Flag) (known : List Given) (argument : String) :
    Except Interruption Step :=
  match argument.toList with
  | '-' :: '-' :: l => readLong flags known l
  | '-' :: c :: l => readShort flags known (c :: l)
  | _ => .error .misuse

/-- Reads arguments up to the name of a command. Two dashes alone say that no flags follow, and then
nothing may follow at all. -/
def readAll (flags : List Flag) (commands : List String) :
    List Given → List String → Except Interruption Arguments
  | known, [] => .ok ⟨known, []⟩
  | known, argument :: rest =>
    if argument = "--" then if rest = [] then .ok ⟨known, []⟩ else .error .misuse
    else if commands.contains argument then .ok ⟨known, argument :: rest⟩
    else
      match readOne flags known argument with
      | .error i => .error i
      | .ok (.complete known) => readAll flags commands known rest
      | .ok (.awaiting known f) =>
        match rest with
        | [] => .error .misuse
        | value :: rest =>
          if isFlagLike value then .error .misuse
          else
            match add known f value with
            | .error i => .error i
            | .ok known => readAll flags commands known rest

end Flag

end RolloutPlan.CommandLine
