import PredicateOracle.Engine.Row

/-!
# PredicateOracle.Check.Comparison -- comparing an answer with the expected one

Two lists of rows are compared as lists, as multisets or as sets. If they differ, the difference is
part of the answer: the numbers of rows, the first place where two ordered answers differ, or the
rows that are missing and those that are too many.
-/

namespace PredicateOracle

/-- When two answers count as equal. -/
inductive Policy where
  /-- The same rows in the same order. -/
  | ordered
  /-- The same rows, each as often. -/
  | multiset
  /-- The same rows, counted once. -/
  | set
  deriving DecidableEq, Repr

/-- The policy for a query. -/
def Policy.forQuery (distinct ordered : Bool) : Policy :=
  if distinct then .set else if ordered then .ordered else .multiset

/-- The name of a policy. -/
def Policy.name : Policy → String
  | .ordered => "Ordered"
  | .multiset => "Multiset"
  | .set => "Set"

/-- How an answer differs from the expected one. -/
inductive Mismatch where
  | rowCount (expected actual : Nat)
  /-- Two rows at the same place have different numbers of cells. -/
  | rowWidth (index expected actual : Nat)
  | row (index : Nat) (expected actual : Row)
  | multiset (missing unexpected : List Row)
  | set (missing unexpected : List Row)
  deriving DecidableEq, Repr

namespace Mismatch

/-- The lists of missing and unexpected rows. -/
def rowsText (missing unexpected : List Row) : String :=
  "missing=" ++ Row.listings missing ++ ", unexpected=" ++ Row.listings unexpected

/-- Two expected and actual values. -/
def valuesText (expected actual : String) : String :=
  "expected=" ++ expected ++ ", actual=" ++ actual

/-- The wording of a mismatch. -/
def message : Mismatch → String
  | .rowCount expected actual =>
    "Row count mismatch: " ++ valuesText (toString expected) (toString actual)
  | .rowWidth index expected actual =>
    "Row value count mismatch at row " ++ toString index ++ ": "
      ++ valuesText (toString expected) (toString actual)
  | .row index expected actual =>
    "Row mismatch at row " ++ toString index ++ ": "
      ++ valuesText expected.listing actual.listing
  | .multiset missing unexpected => "Multiset mismatch: " ++ rowsText missing unexpected
  | .set missing unexpected => "Set mismatch: " ++ rowsText missing unexpected

end Mismatch

namespace Comparison

/-- The first place, from number `index` on, where two lists of rows differ. -/
def firstDifference : Nat → List Row → List Row → Option Mismatch
  | index, e :: es, a :: as =>
    if e.length ≠ a.length then some (.rowWidth index e.length a.length)
    else if e ≠ a then some (.row index e a)
    else firstDifference (index + 1) es as
  | _, _, _ => none

/-- The rows that occur more often in one list than in another, each once and in order. -/
def surplus (more fewer : List Row) : List Row :=
  Row.sortedDistinct (more.filter fun r => fewer.count r < more.count r)

/-- The rows of one list that another one lacks, each once and in order. -/
def difference (more fewer : List Row) : List Row :=
  Row.sortedDistinct (more.filter fun r => !fewer.contains r)

/-- How an answer differs from the expected one, if it does. -/
def mismatch? (p : Policy) (expected actual : List Row) : Option Mismatch :=
  if expected.length ≠ actual.length then some (.rowCount expected.length actual.length)
  else
    match p with
    | .ordered => firstDifference 0 expected actual
    | .multiset =>
      let missing := surplus expected actual
      let unexpected := surplus actual expected
      if missing.isEmpty && unexpected.isEmpty then none else some (.multiset missing unexpected)
    | .set =>
      let missing := difference expected actual
      let unexpected := difference actual expected
      if missing.isEmpty && unexpected.isEmpty then none else some (.set missing unexpected)

end Comparison
end PredicateOracle
