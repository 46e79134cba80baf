/-!
# Styled text

What stands out in a report is written between escape sequences of a terminal, unless the report goes
somewhere else.

* `Style`: a colour and whether the text is bold.
* `Style.paint`: the text in a style.
-/

namespace RolloutPlan

/-- The colours of a report. -/
inductive Colour where
  | green
  | yellow
  | cyan
deriving DecidableEq

/-- How a text stands out. -/
structure Style where
  bold : Bool := false
  colour : Option Colour := none
deriving DecidableEq

namespace Style

def colourCode : Colour → String
  | .green => "32"
  | .yellow => "33"
  | .cyan => "36"

def opening (s : Style) : String :=
  let codes := (if s.bold then ["1"] else []) ++ (s.colour.map colourCode).toList
  "\x1b[" ++ ";".intercalate codes ++ "m"

def ending : String := "\x1b[0m"

def paint (s : Style) (coloured : Bool) (text : String) : String :=
  if coloured then s.opening ++ text.replace ending (ending ++ s.opening) ++ ending else text

/-- A mark for what is as it should be. -/
def good : Style := { bold := true, colour := some .green }

/-- A mark for one of several things that are as they should be. -/
def goodItem : Style := { colour := some .green }

def notice : Style := { bold := true, colour := some .yellow }

def place : Style := { colour := some .cyan }

def name : Style := { bold := true }

end Style

end RolloutPlan
