import PredicateOracle.Random.Draw
import PredicateOracle.Sql.Select

/-!
# PredicateOracle.Generate.RowSource -- random target tables and row sources

Which tables a query is about, and how they are put into its FROM clause. Every chosen table
occurs exactly once: as a side of a join, or by itself.
-/

namespace PredicateOracle.Generate

open Sql

/-- Takes elements out at random until at most `bound` are left. -/
def thinOut {α : Type} (bound : Nat) : Nat → List α → Gen (List α)
  | 0, items => pure items
  | n + 1, items =>
    if items.length ≤ bound then pure items
    else do thinOut bound n (← Gen.remove items (← Gen.index items.length))

/-- Some of the tables that have a column, in their order: at least one, and no more than the
maximum, which counts as one if it is zero. There is none if no table has a column. -/
def targets (s : Schema) (maxTables : Nat) : Gen (Option (List Table)) :=
  match s.usable with
  | [] => pure none
  | usable => do
    let chosen ← Gen.subset usable
    return some (← thinOut (max 1 maxTables) chosen.length chosen)

/-- Joins the first two tables as long as there are two and the coin says so. Each condition is
drawn over the columns of its two tables. -/
def rowSource (predicate : List Column → Gen Expr) (joinProbability : Float) :
    List Table → Gen RowSource
  | left :: right :: rest => do
    if ← Gen.chance joinProbability then
      let kind ← Gen.pick JoinKind.all
      let on ← predicate (left.columns ++ right.columns)
      let source ← rowSource predicate joinProbability rest
      return { source with joins := ⟨left.name, kind, right.name, on⟩ :: source.joins }
    else return ⟨(left :: right :: rest).map (·.name), []⟩
  | tables => return ⟨tables.map (·.name), []⟩

end PredicateOracle.Generate
