import PredicateOracle.Fault
import PredicateOracle.Truth.Basic

/-!
# PredicateOracle.Truth.Column -- a predicate's truth on every row

The truth of one predicate on the rows of a snapshot, in row order. Two such columns belong to the
same snapshot if they have the same length; only then can they be combined.
-/

namespace PredicateOracle

/-- One truth value per row. -/
abbrev TruthColumn := List Truth

namespace TruthColumn

/-- The column of the negated predicate. -/
def negate (c : TruthColumn) : TruthColumn := c.map Truth.not

/-- How many rows a filter with the predicate keeps. -/
def countKept (c : TruthColumn) : Nat := c.countP Truth.kept

/-- Applies a connective row by row. -/
def zip (op : Truth → Truth → Truth) (l r : TruthColumn) : Except Fault TruthColumn :=
  if l.length = r.length then .ok (List.zipWith op l r)
  else .error (.lengthMismatch l.length r.length)

end TruthColumn
end PredicateOracle
