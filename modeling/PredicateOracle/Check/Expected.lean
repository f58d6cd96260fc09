import PredicateOracle.Check.Report
import PredicateOracle.Truth.Column

/-!
# PredicateOracle.Check.Expected -- the answer that a filter should give

What a query over the rows of a snapshot must return if its filter has a known truth on each of
them: the rows on which it holds. With duplicates removed, a row stands where it first appears;
whether two rows are equal is decided on all of their cells, even if only the first is shown.
-/

namespace PredicateOracle

/-- Which cells of a row are returned. -/
inductive Projection where
  | fullRow
  | firstColumn
  deriving DecidableEq, Repr

/-- The returned cells of a row. -/
def Projection.apply : Projection → Row → Row
  | .fullRow, r => r
  | .firstColumn, r => r.take 1

namespace Expected

/-- The rows on which a filter holds. -/
def kept : List Row → TruthColumn → List Row
  | r :: rows, t :: ts => if t.kept then r :: kept rows ts else kept rows ts
  | _, _ => []

/-- Refuses a truth column that is not as long as the list of rows. -/
def matching (rows : List Row) (truth : TruthColumn) : Except Defect Unit :=
  if rows.length = truth.length then .ok () else .error (.columnLength truth.length rows.length)

/-- The answer with all its rows, in the order of the snapshot. -/
def ordered (rows : List Row) (truth : TruthColumn) (p : Projection) :
    Except Defect (List Row) := do
  matching rows truth
  return (kept rows truth).map p.apply

/-- The answer without duplicates, in the order of first appearance. -/
def distinct (rows : List Row) (truth : TruthColumn) (p : Projection) :
    Except Defect (List Row) := do
  matching rows truth
  return (kept rows truth).eraseDups.map p.apply

end Expected
end PredicateOracle
