/-!
# PredicateOracle.CommandLine.Style -- colours with a meaning

A text on the terminal may have one of six meanings, each shown in a style of its own. A plain style
shows none of them.
-/

namespace PredicateOracle.CommandLine

/-- What a text means. -/
inductive Tone where
  | success
  | error
  | warning
  | muted
  | header
  /-- Seeds, paths and commands. -/
  | code
  deriving DecidableEq, Repr

/-- The style of a meaning, as terminals number them. -/
def Tone.style : Tone → String
  | .success => "32;1"
  | .error => "31;1"
  | .warning => "33"
  | .muted => "2"
  | .header => "1"
  | .code => "34"

/-- A text in the style of its meaning. -/
def paint (plain : Bool) (tone : Tone) (text : String) : String :=
  if plain then text else "\x1b[" ++ tone.style ++ "m" ++ text ++ "\x1b[0m"

/-- A line with a name and a value. -/
def labeled (plain : Bool) (name value : String) : String :=
  "  " ++ paint plain .muted name ++ ": " ++ value

/-- A line that tells of a success. -/
def successLine (plain : Bool) (text : String) : String := paint plain .success "✓" ++ " " ++ text

/-- A line that tells of an error. -/
def errorLine (plain : Bool) (text : String) : String := paint plain .error "✗" ++ " " ++ text

end PredicateOracle.CommandLine
