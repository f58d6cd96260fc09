import PredicateOracle.Check.Report
import PredicateOracle.Predicate.Known
import PredicateOracle.Sql.Select

/-!
# PredicateOracle.Check.Snapshot -- rows with the truth of every predicate

The first query of a check fetches columns and predicates together. Its answer is split: the first
cells of each row are its contents, the others the truth of one predicate each. The split loses
nothing, and an answer that cannot be split is refused at its first fault in reading order.
-/

namespace PredicateOracle

open Sql

/-- The fetched rows and the predicates known on them. -/
structure Snapshot where
  rows : List Row
  predicates : List Known
  /-- The query that the rows come from. -/
  query : String
  deriving DecidableEq, Repr

namespace Snapshot

/-- The query for columns and predicates together. -/
def fetchQuery (columns predicates : List Expr) (source : RowSource) (orderBy : List Expr) :
    Select :=
  ⟨false, columns ++ predicates, source, none, orderBy⟩

/-- Reads the truth cells of a row from predicate number `i` on. -/
def readTruths (row : Nat) : Nat → List (Option String) → Except Defect (List Truth)
  | _, [] => .ok []
  | i, c :: cs =>
    match Truth.ofCell c with
    | .ok t => (readTruths row (i + 1) cs).map (t :: ·)
    | .error text => .error (.notTruth i text row)

/-- Splits a row with `width` cells of contents and `count` predicates. -/
def splitRow (width count index : Nat) (row : Row) : Except Defect (Row × List Truth) :=
  if row.length ≠ width + count then .error (.rowWidth index row.length (width + count))
  else (readTruths index 0 (row.drop width)).map (row.take width, ·)

/-- Splits rows from number `index` on, up to the first that cannot be split. -/
def splitRows (width count : Nat) : Nat → List Row → Except Defect (List (Row × List Truth))
  | _, [] => .ok []
  | index, row :: rows => do
    let first ← splitRow width count index row
    return first :: (← splitRows width count (index + 1) rows)

/-- The columns of a table with `count` columns that is given by rows. -/
def transpose (count : Nat) (table : List (List Truth)) : List TruthColumn :=
  table.foldr (List.zipWith (· :: ·)) (List.replicate count [])

/-- Splits an answer. -/
def ofRows (rows : List Row) (width : Nat) (predicates : List Expr) (query : String) :
    Except Defect Snapshot := do
  let split ← splitRows width predicates.length 0 rows
  let truths := transpose predicates.length (split.map (·.2))
  return ⟨split.map (·.1), List.zipWith Known.mk predicates truths, query⟩

end Snapshot
end PredicateOracle
