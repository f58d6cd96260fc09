import PredicateOracle.Text.Blank

/-!
# PredicateOracle.Check.Mode -- what the second query asks for

The second query of a check returns either every row on which its filter holds or the different ones
among them. The names of the modes are read without regard to case.
-/

namespace PredicateOracle

/-- The form of the second query. -/
inductive Mode where
  /-- All rows, duplicates included. -/
  | plain
  /-- Different rows only. -/
  | distinct
  deriving DecidableEq, Repr

namespace Mode

/-- Both modes, in the order in which a run goes through them. -/
def all : List Mode := [.plain, .distinct]

/-- The name of a mode. -/
def name : Mode → String
  | .plain => "where"
  | .distinct => "distinct"

/-- The mode with exactly this name. -/
def ofName? : String → Option Mode
  | "where" => some .plain
  | "distinct" => some .distinct
  | _ => none

/-- The complaint about a name that no mode has. -/
def unknownMessage (name : String) : String :=
  "unknown oracle mode `" ++ name ++ "` (expected where|distinct)"

/-- The mode with this name up to case, or a complaint about the name in lower case. -/
def ofText (text : String) : Except String Mode :=
  match ofName? (Text.lower text) with
  | some m => .ok m
  | none => .error (unknownMessage (Text.lower text))

theorem ofName?_name (m : Mode) : ofName? m.name = some m := by cases m <;> rfl

end Mode
end PredicateOracle
